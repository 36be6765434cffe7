import Vp8.Proofs.Frame.Independence
import Vp8.Proofs.Prediction.Neighbourhood

/-!
What intra prediction sees in a whole frame. A reconstruction that notes every sample it looks at is
the same reconstruction, and each sample is what its place shows in the picture that comes of it:
nothing is looked at before it is final, and nothing that the target held before is ever seen.
-/
namespace Vp8

structure Sights where
  luma : List Sight
  cb : List Sight
  cr : List Sight
  deriving DecidableEq, Repr

namespace Sights

def none : Sights := ⟨[], [], []⟩

def append (first second : Sights) : Sights where
  luma := first.luma ++ second.luma
  cb := first.cb ++ second.cb
  cr := first.cr ++ second.cr

@[simp] theorem append_none (seen : Sights) : seen.append .none = seen := by
  simp [append, none]

structure Right {rows cols : Nat} (seen : Sights) (p : Picture rows cols) : Prop where
  luma : ∀ s ∈ seen.luma,
    Plane.Neighbour (Plane.Inner (16 * cols) (16 * rows)) p.luma 16 s.x s.y s.value
  cb : ∀ s ∈ seen.cb, Plane.Neighbour (Plane.Inner (8 * cols) (8 * rows)) p.cb 8 s.x s.y s.value
  cr : ∀ s ∈ seen.cr, Plane.Neighbour (Plane.Inner (8 * cols) (8 * rows)) p.cr 8 s.x s.y s.value

end Sights

namespace Picture

variable {rows cols : Nat} {r : Fin rows} {c : Fin cols} {p q : Picture rows cols} {seen : Sights}

/-- What is looked at for a macroblock. One that has a reference is not predicted from its
    neighbours. -/
def sights (p : Picture rows cols) (r : Fin rows) (c : Fin cols) (m : Macroblock)
    (residual : Option Residual) : Sights :=
  if m.reference = .current then
    { luma := p.luma.intraLumaSights (Plane.lumaFits r c) m (residual.map Residual.luma)
      cb := p.cb.intraChromaSights (Plane.chromaFits r c)
      cr := p.cr.intraChromaSights (Plane.chromaFits r c) }
  else .none

structure Watched (r c : Nat) (p : Picture rows cols) (seen : Sights) : Prop where
  luma : p.luma.Watched (Plane.Done (16 * cols) (16 * c) (16 * r) 16) 16 4 (16 * r : Nat) seen.luma
  cb : p.cb.Watched (Plane.Done (8 * cols) (8 * c) (8 * r) 8) 8 0 (8 * r : Nat) seen.cb
  cr : p.cr.Watched (Plane.Done (8 * cols) (8 * c) (8 * r) 8) 8 0 (8 * r : Nat) seen.cr

theorem Watched.inheritDamage {r c : Nat} (watched : Watched r c p seen) (s : Sources rows cols)
    (a : Reference) : Watched r c (p.inheritDamage s a) seen := by
  unfold Picture.inheritDamage
  split
  · exact watched
  · exact ⟨watched.luma, watched.cb, watched.cr⟩

theorem inheritDamage_sights (p : Picture rows cols) (s : Sources rows cols) (a : Reference)
    (m : Macroblock) (residual : Option Residual) :
    (p.inheritDamage s a).sights r c m residual = p.sights r c m residual := by
  unfold inheritDamage
  split <;> rfl

theorem Watched.reconstruct (watched : Watched r c p seen) {s : Sources rows cols} {m : Macroblock}
    {residual : Option Residual} (done : p.reconstruct s r c m residual = .ok q) :
    Watched r (c + 1) q (seen.append (p.sights r c m residual)) := by
  obtain ⟨reference, found, placed⟩ := bind_ok.mp done
  cases placed
  unfold sights
  by_cases intra : m.reference = .current
  · unfold Sources.find at found
    rw [if_pos intra] at found
    cases found
    rw [if_pos intra]
    exact {
      luma := watched.luma.intraLuma (Plane.lumaFits r c) m _
      cb := watched.cb.intraChroma (Plane.chromaFits r c) m _
      cr := watched.cr.intraChroma (Plane.chromaFits r c) m _ }
  · have apart := p.reconstructFrom_apart s reference ⟨Plane.lumaFits r c, Plane.chromaFits r c⟩ m
      residual
    rw [if_neg intra, Sights.append_none]
    exact {
      luma := watched.luma.next apart.luma
      cb := watched.cb.next apart.cb
      cr := watched.cr.next apart.cr }

theorem Watched.right (watched : Watched rows 0 p seen) : seen.Right p := by
  have inner {width side : Nat} {u v : Int}
      (done : Plane.Done width (side * 0) (side * rows) side u v) :
      Plane.Inner width (side * rows) u v := by
    rw [Nat.mul_zero] at done
    unfold Plane.Done at done
    unfold Plane.Inner
    omega
  constructor
  · intro s member
    exact (watched.luma.sights s member).carry (fun _ _ _ => rfl) fun _ _ => inner
  · intro s member
    exact (watched.cb.sights s member).carry (fun _ _ _ => rfl) fun _ _ => inner
  · intro s member
    exact (watched.cr.sights s member).carry (fun _ _ _ => rfl) fun _ _ => inner

end Picture

namespace Progress

variable {rows cols partitions : Nat} {setup : FrameSetup rows cols} {positive : 0 < partitions}

def sights (setup : FrameSetup rows cols) (positive : 0 < partitions) (r : Fin rows)
    (p : Progress rows cols partitions) (c : Fin cols) : Sights :=
  let read := ((tokensOf setup p r c).read (p.readers.get (turn positive r))).1
  p.picture.sights r c read.1.2 read.1.1

def traceMacroblock (setup : FrameSetup rows cols) (positive : 0 < partitions) (r : Fin rows)
    (t : Progress rows cols partitions × Sights) (c : Fin cols) :
    Except DecodeError (Progress rows cols partitions × Sights) := do
  let p ← macroblock setup positive r t.1 c
  return (p, t.2.append (t.1.sights setup positive r c))

def traceRow (setup : FrameSetup rows cols) (positive : 0 < partitions)
    (t : Progress rows cols partitions × Sights) (r : Fin rows) :
    Except DecodeError (Progress rows cols partitions × Sights) := do
  let t ← (List.finRange cols).foldlM (traceMacroblock setup positive r) (t.1.startRow, t.2)
  return (t.1.endRow r, t.2)

def traceRun (setup : FrameSetup rows cols) (target : Picture rows cols) (grid : Grid rows cols)
    (parts : Vector ByteArray partitions) (positive : 0 < partitions) :
    Except DecodeError (Progress rows cols partitions × Sights) :=
  (List.finRange rows).foldlM (traceRow setup positive) (start target grid parts, .none)

theorem traceMacroblock_fst (setup : FrameSetup rows cols) (positive : 0 < partitions)
    (r : Fin rows) (t : Progress rows cols partitions × Sights) (c : Fin cols) :
    (traceMacroblock setup positive r t c).map Prod.fst = macroblock setup positive r t.1 c := by
  unfold traceMacroblock
  cases macroblock setup positive r t.1 c <;> rfl

theorem traceRow_fst (setup : FrameSetup rows cols) (positive : 0 < partitions)
    (t : Progress rows cols partitions × Sights) (r : Fin rows) :
    (traceRow setup positive t r).map Prod.fst = row setup positive t.1 r := by
  have line := foldlM_commutes Prod.fst (traceMacroblock_fst setup positive r)
    (List.finRange cols) (t.1.startRow, t.2)
  unfold traceRow
  rw [row_eq, ← line]
  cases (List.finRange cols).foldlM (traceMacroblock setup positive r) (t.1.startRow, t.2) <;> rfl

theorem traceRun_fst (setup : FrameSetup rows cols) (target : Picture rows cols)
    (grid : Grid rows cols) (parts : Vector ByteArray partitions) (positive : 0 < partitions) :
    (traceRun setup target grid parts positive).map Prod.fst =
      run setup target grid parts positive :=
  foldlM_commutes Prod.fst (traceRow_fst setup positive) (List.finRange rows) _

variable {t u : Progress rows cols partitions × Sights} {r : Fin rows} {c : Fin cols}

theorem traceMacroblock_watched (watched : t.1.picture.Watched r c t.2)
    (done : traceMacroblock setup positive r t c = .ok u) :
    u.1.picture.Watched r (c + 1) u.2 := by
  obtain ⟨p, placed, same⟩ := bind_ok.mp done
  cases same
  rw [macroblock_eq] at placed
  obtain ⟨picture, reconstructed, rfl⟩ := place_ok.mp placed
  have next := (watched.inheritDamage setup.sources _).reconstruct reconstructed
  rw [Picture.inheritDamage_sights] at next
  exact next

theorem traceRow_watched (watched : t.1.picture.Watched r 0 t.2)
    (done : traceRow setup positive t r = .ok u) : u.1.picture.Watched (r + 1) 0 u.2 := by
  obtain ⟨last, line, ended⟩ := bind_ok.mp done
  cases ended
  obtain ⟨luma, cb, cr⟩ := foldlM_invariant (p := (t.1.startRow, t.2))
    (fun c (t : Progress rows cols partitions × Sights) => t.1.picture.Watched r c t.2)
    (fun _ _ _ watched done => traceMacroblock_watched watched done) watched line
  -- the row is finished, and its last line goes on to the right for the row below it
  have room : Plane.Covers (16 * cols) (16 * rows) 32 ((16 * cols : Nat) - 1) (16 * r + 15) 5 1 :=
    Plane.Encloses.covers (by unfold Plane.Encloses; omega)
  exact ⟨luma.extendRowRight room, cb.nextRow, cr.nextRow⟩

theorem start_watched (target : Picture rows cols) (grid : Grid rows cols)
    (parts : Vector ByteArray partitions) :
    (start target grid parts).picture.Watched 0 0 .none where
  luma := ⟨target.luma.setIntraEdges_edged luma_room (Plane.edgeRoom luma_room) 4, nofun⟩
  cb := ⟨target.cb.setIntraEdges_edged chroma_room (Plane.edgeRoom chroma_room) 0, nofun⟩
  cr := ⟨target.cr.setIntraEdges_edged chroma_room (Plane.edgeRoom chroma_room) 0, nofun⟩

theorem traceRun_watched {target : Picture rows cols} {grid : Grid rows cols}
    {parts : Vector ByteArray partitions}
    (done : traceRun setup target grid parts positive = .ok t) :
    t.1.picture.Watched rows 0 t.2 :=
  foldlM_invariant
    (fun r (t : Progress rows cols partitions × Sights) => t.1.picture.Watched r 0 t.2)
    (fun _ _ _ watched done => traceRow_watched watched done) (start_watched target grid parts) done

end Progress

section Frame

variable {rows cols : Nat} {setup : FrameSetup rows cols} {target : Picture rows cols}
  {grid : Grid rows cols} {parts : List ByteArray}

def traceFrame (setup : FrameSetup rows cols) (target : Picture rows cols) (grid : Grid rows cols)
    (parts : List ByteArray) : Except DecodeError (Reconstruction rows cols × Sights) :=
  if positive : 0 < parts.length then do
    let (done, seen) ← Progress.traceRun setup target grid ⟨parts.toArray, List.size_toArray⟩
      positive
    return ({ picture := done.picture, grid := done.grid, overrun := done.overrun }, seen)
  else .error (.corruptFrame .noTokenPartition)

theorem traceFrame_fst (setup : FrameSetup rows cols) (target : Picture rows cols)
    (grid : Grid rows cols) (parts : List ByteArray) :
    (traceFrame setup target grid parts).map Prod.fst =
      reconstructFrame setup target grid parts := by
  unfold traceFrame reconstructFrame
  split
  · rename_i positive
    rw [← Progress.traceRun_fst]
    cases Progress.traceRun setup target grid ⟨parts.toArray, List.size_toArray⟩ positive <;> rfl
  · rfl

theorem traceFrame_right {done : Reconstruction rows cols} {seen : Sights}
    (traced : traceFrame setup target grid parts = .ok (done, seen)) : seen.Right done.picture := by
  unfold traceFrame at traced
  split at traced
  · obtain ⟨t, run, finished⟩ := bind_ok.mp traced
    cases finished
    exact (Progress.traceRun_watched run).right
  · contradiction

/-- Whatever a frame is reconstructed on, each sample that intra prediction looks at is 127 above
    the picture, 129 to its left, and inside it the pixel that the reconstruction ends with; to the
    right it is the last pixel of the line above a row of macroblocks. Any other target leads to the
    same picture. -/
theorem intra_prediction_sees_final_pixels {done : Reconstruction rows cols}
    (reconstructed : reconstructFrame setup target grid parts = .ok done) :
    ∃ seen, traceFrame setup target grid parts = .ok (done, seen) ∧ seen.Right done.picture ∧
      ∀ other, ∃ again, reconstructFrame setup other grid parts = .ok again ∧
        done.picture.AgreeInside again.picture := by
  have erased := traceFrame_fst setup target grid parts
  rw [reconstructed] at erased
  cases traced : traceFrame setup target grid parts with
  | error e =>
    rw [traced] at erased
    contradiction
  | ok t =>
    obtain ⟨same, seen⟩ := t
    rw [traced] at erased
    cases erased
    refine ⟨seen, rfl, traceFrame_right traced, ?_⟩
    intro other
    have alike := reconstructFrame_alike target other parts
      (⟨rfl, rfl, .inl rfl⟩ : Progress.Compatible setup setup grid)
    rw [reconstructed] at alike
    generalize reconstructFrame setup other grid parts = again at alike ⊢
    cases alike with
    | ok related => exact ⟨_, rfl, related.picture⟩

/-- Two macroblocks, one above the other, both in sub-blocks and without tokens. -/
def tower : Grid 2 1 :=
  ⟨.replicate 2 (.replicate 1 { Macroblock.default with mode := .subblocks, skipped := true })⟩

def bareSetup : FrameSetup 2 1 where
  sources := ⟨none, none, none, .sixTap, false⟩
  factors := .replicate 4 ⟨.zero, .zero, .zero⟩
  probs := .default

theorem tower_sees_final_pixels :
    ∃ done seen, reconstructFrame bareSetup (.blank 2 1) tower [.empty] = .ok done ∧
      traceFrame bareSetup (.blank 2 1) tower [.empty] = .ok (done, seen) ∧
      seen.luma.length = 2 * 16 * 13 ∧ seen.Right done.picture := by
  have counted : ((traceFrame bareSetup (.blank 2 1) tower [.empty]).toOption.map
      fun t => t.2.luma.length) = some (2 * 16 * 13) := by decide +kernel
  obtain ⟨⟨done, seen⟩, traced, count⟩ := Option.map_eq_some_iff.mp counted
  have reconstructed : reconstructFrame bareSetup (.blank 2 1) tower [.empty] = .ok done := by
    rw [← traceFrame_fst, ok_of_toOption traced]
    rfl
  obtain ⟨same, found, right, _⟩ := intra_prediction_sees_final_pixels reconstructed
  cases (ok_of_toOption traced).symm.trans found
  exact ⟨done, seen, reconstructed, found, count, right⟩

end Frame

end Vp8
