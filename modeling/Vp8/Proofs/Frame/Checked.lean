import Vp8.Proofs.Frame.Progress
import Vp8.Proofs.Prediction.Checked
import Vp8.Proofs.Residual.Checked

/-!
Reconstruction of a frame with every access checked. Each row has a partition to read from, and each
macroblock its cell in the grid.
-/
namespace Vp8

namespace Progress

variable {rows cols partitions : Nat}

def start? (target : Picture rows cols) (grid : Grid rows cols)
    (parts : Vector ByteArray partitions) : Option (Progress rows cols partitions) := do
  let picture ← target.setIntraEdges?
  return {
    picture := { picture with damaged := false }
    grid := grid
    tokens := .blank cols
    readers := parts.map .ofBytes }

def macroblock? (setup : FrameSetup rows cols) (r : Fin rows) (p : Progress rows cols partitions)
    (c : Fin cols) : Option (Progress rows cols partitions) := do
  let turn := r.val % partitions
  let reader ← p.readers[turn]?
  let m ← p.grid.get? r c
  let (((residual, m), tokens), reader) ←
    Coded.read? (m.readResidual? setup.factors setup.probs p.tokens c) reader
  let picture ← (p.picture.inheritDamage setup.sources m.reference).reconstruct? setup.sources
    r c m residual
  let grid ← p.grid.set? r c m
  let readers ← demand (turn < partitions) fun _ => p.readers.set turn reader
  return { picture, grid, tokens, readers }

def row? (setup : FrameSetup rows cols) (p : Progress rows cols partitions) (r : Fin rows) :
    Option (Progress rows cols partitions) := do
  let p ← (List.finRange cols).foldlM (macroblock? setup r) p.startRow
  let luma ← p.picture.luma.extendRowRight? (16 * r + 15)
  return { p with picture := { p.picture with luma } }

def run? (setup : FrameSetup rows cols) (target : Picture rows cols) (grid : Grid rows cols)
    (parts : Vector ByteArray partitions) : Option (Progress rows cols partitions) := do
  let p ← start? target grid parts
  (List.finRange rows).foldlM (row? setup) p

variable {setup : FrameSetup rows cols} {p q : Progress rows cols partitions}

theorem start?_eq (target : Picture rows cols) (grid : Grid rows cols)
    (parts : Vector ByteArray partitions) :
    start? target grid parts = some (start target grid parts) := by
  unfold start?
  rw [target.setIntraEdges?_eq]
  rfl

theorem macroblock?_eq (visible : Plane.Visible cols rows) (positive : 0 < partitions)
    {r : Fin rows} {c : Fin cols} (done : macroblock setup positive r p c = .ok q) :
    macroblock? setup r p c = some q := by
  have reader : p.readers[r.val % partitions]? = some (p.readers.get (turn positive r)) :=
    Vector.getElem?_eq_getElem (turn_lt positive r)
  rw [macroblock_eq] at done
  obtain ⟨picture, reconstructed, rfl⟩ := place_ok.mp done
  unfold macroblock?
  dsimp only
  rw [reader, p.grid.get?_eq]
  dsimp only [Option.bind_eq_bind, Option.bind_some]
  have tokens : (p.grid.get r c).readResidual? setup.factors setup.probs p.tokens c =
      (tokensOf setup p r c).sure := Macroblock.readResidual?_eq _ _ _ _ _
  rw [tokens, Coded.read?_sure]
  dsimp only [Option.bind_some]
  rw [Picture.reconstruct?_eq visible reconstructed]
  dsimp only [Option.bind_some]
  rw [p.grid.set?_eq, demand_eq (turn_lt positive r)]
  rfl

theorem row?_eq (visible : Plane.Visible cols rows) (positive : 0 < partitions) {r : Fin rows}
    (done : row setup positive p r = .ok q) : row? setup p r = some q := by
  rw [row_eq] at done
  obtain ⟨line, read, same⟩ := bind_ok.mp done
  have room : Plane.Covers (16 * cols) (16 * rows) 32 (↑(16 * cols) - 1) (16 * r + 15) 5 1 :=
    Plane.Encloses.covers (by unfold Plane.Encloses; omega)
  unfold row?
  rw [foldlM_of_ok (fun _ _ _ done => macroblock?_eq visible positive done) read]
  dsimp only [Option.bind_eq_bind, Option.bind_some]
  rw [Plane.extendRowRight?_eq room]
  exact congrArg some (Except.ok.inj same)

theorem run?_eq (visible : Plane.Visible cols rows) (positive : 0 < partitions)
    {target : Picture rows cols} {grid : Grid rows cols} {parts : Vector ByteArray partitions}
    (done : run setup target grid parts positive = .ok q) :
    run? setup target grid parts = some q := by
  unfold run?
  rw [start?_eq]
  exact foldlM_of_ok (fun _ _ _ done => row?_eq visible positive done) done

end Progress

variable {rows cols : Nat}

def reconstructFrame? (setup : FrameSetup rows cols) (target : Picture rows cols)
    (grid : Grid rows cols) (parts : List ByteArray) : Option (Reconstruction rows cols) := do
  if parts.length = 0 then none
  else
    let done ← Progress.run? setup target grid parts.toArray.toVector
    return { picture := done.picture, grid := done.grid, overrun := done.overrun }

theorem reconstructFrame?_eq (visible : Plane.Visible cols rows) {setup : FrameSetup rows cols}
    {target : Picture rows cols} {grid : Grid rows cols} {parts : List ByteArray}
    {done : Reconstruction rows cols}
    (reconstructed : reconstructFrame setup target grid parts = .ok done) :
    reconstructFrame? setup target grid parts = some done := by
  unfold reconstructFrame at reconstructed
  unfold reconstructFrame?
  split at reconstructed
  · rename_i positive
    obtain ⟨q, run, same⟩ := bind_ok.mp reconstructed
    have checked : Progress.run? setup target grid parts.toArray.toVector = some q :=
      Progress.run?_eq visible positive run
    rw [if_neg (Nat.pos_iff_ne_zero.mp positive), checked]
    exact congrArg some (Except.ok.inj same)
  · contradiction

end Vp8
