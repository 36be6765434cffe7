import Vp8.Frame.Reconstruction
import Vp8.Proofs.Frame.Lockstep

/-!
The steps of a reconstruction, taken apart: what is read for a macroblock, and what becomes of the
frame once that is known.
-/
namespace Vp8

namespace Progress

variable {rows cols partitions : Nat}

theorem turn_lt (positive : 0 < partitions) (r : Fin rows) : r.val % partitions < partitions :=
  Nat.mod_lt _ positive

def turn (positive : 0 < partitions) (r : Fin rows) : Fin partitions :=
  ⟨r % partitions, turn_lt positive r⟩

abbrev Tokens (cols : Nat) : Type := (Option Residual × Macroblock) × TokenContext cols

def tokensOf (setup : FrameSetup rows cols) (p : Progress rows cols partitions) (r : Fin rows)
    (c : Fin cols) : Coded (Tokens cols) :=
  (p.grid.get r c).readResidual setup.factors setup.probs p.tokens c

def place (setup : FrameSetup rows cols) (p : Progress rows cols partitions) (r : Fin rows)
    (c : Fin cols) (read : Tokens cols) (readers : Vector BoolReader partitions) :
    Except DecodeError (Progress rows cols partitions) := do
  let picture ← (p.picture.inheritDamage setup.sources read.1.2.reference).reconstruct
    setup.sources r c read.1.2 read.1.1
  return { picture, grid := p.grid.set r c read.1.2, tokens := read.2, readers }

theorem macroblock_eq (setup : FrameSetup rows cols) (positive : 0 < partitions) (r : Fin rows)
    (p : Progress rows cols partitions) (c : Fin cols) :
    macroblock setup positive r p c =
      let read := (tokensOf setup p r c).read (p.readers.get (turn positive r))
      place setup p r c read.1 (replaceAt p.readers (turn positive r) read.2) := rfl

theorem place_ok {setup : FrameSetup rows cols} {p p' : Progress rows cols partitions}
    {r : Fin rows} {c : Fin cols} {read : Tokens cols} {readers : Vector BoolReader partitions} :
    place setup p r c read readers = .ok p' ↔
      ∃ picture, (p.picture.inheritDamage setup.sources read.1.2.reference).reconstruct
          setup.sources r c read.1.2 read.1.1 = .ok picture ∧
        { picture, grid := p.grid.set r c read.1.2, tokens := read.2, readers } = p' := by
  unfold place
  rw [bind_ok]
  exact exists_congr fun picture => and_congr_right fun _ => ⟨Except.ok.inj, congrArg Except.ok⟩

def startRow (p : Progress rows cols partitions) : Progress rows cols partitions :=
  { p with tokens := p.tokens.startRow }

def endRow (p : Progress rows cols partitions) (r : Fin rows) : Progress rows cols partitions :=
  let luma := p.picture.luma.extendRowRight (16 * r + 15)
    (Plane.Encloses.covers (by unfold Plane.Encloses; omega))
  { p with picture := { p.picture with luma } }

theorem row_eq (setup : FrameSetup rows cols) (positive : 0 < partitions)
    (p : Progress rows cols partitions) (r : Fin rows) :
    row setup positive p r =
      (List.finRange cols).foldlM (macroblock setup positive r) p.startRow >>=
        fun p => return p.endRow r := rfl

def Overran (p : Progress rows cols partitions) : Prop := ∃ k, (p.readers.get k).overrun = true

theorem overrun_iff (p : Progress rows cols partitions) : p.overrun = true ↔ p.Overran := by
  unfold overrun
  rw [Vector.any_eq_true]
  exact ⟨fun ⟨k, lt, beyond⟩ => ⟨⟨k, lt⟩, beyond⟩, fun ⟨k, beyond⟩ => ⟨k, k.isLt, beyond⟩⟩

end Progress

theorem reconstructFrame_toList (setup : FrameSetup rows cols) (target : Picture rows cols)
    (grid : Grid rows cols) (parts : Vector ByteArray partitions) :
    reconstructFrame setup target grid parts.toList =
      if positive : 0 < partitions then do
        let done ← Progress.run setup target grid parts positive
        return { picture := done.picture, grid := done.grid, overrun := done.overrun }
      else .error (.corruptFrame .noTokenPartition) := by
  obtain ⟨⟨list⟩, rfl⟩ := parts
  rfl

end Vp8
