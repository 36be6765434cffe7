import Vp8.Proofs.Macroblock.Framed
import Vp8.Proofs.Macroblock.Segments
import Vp8.Proofs.Prediction.Border

/-!
Well-formed macroblocks. Whatever the data, the modes that are read fit together: the reference with
the mode, the vectors with the reference and the split, the mark for vectors out of reach with the
vectors, and the modes of the sub-blocks with that of the macroblock. What was in the grid before
only has a say in the segments.
-/
namespace Vp8

namespace Reach

def Holds (reach : Reach) (v : MotionVector) : Prop :=
  reach.left - side ≤ v.col.toInt ∧ v.col.toInt ≤ reach.right + side ∧
    reach.top - side ≤ v.row.toInt ∧ v.row.toInt ≤ reach.bottom + side

theorem outside_iff (reach : Reach) (v : MotionVector) :
    reach.outside v = true ↔ ¬ reach.Holds v := by
  simp only [outside, Holds, Bool.or_eq_true, decide_eq_true_eq]
  omega

def Around (reach : Reach) : Prop :=
  reach.left ≤ 0 ∧ 0 ≤ reach.right ∧ reach.top ≤ 0 ∧ 0 ≤ reach.bottom

theorem ofPosition_around {rows cols : Nat} (r : Fin rows) (c : Fin cols) :
    (ofPosition r c rows cols).Around := by
  have := r.isLt
  have := c.isLt
  unfold Around ofPosition side
  dsimp only
  omega

variable {reach : Reach}

theorem Around.zero (around : reach.Around) : reach.Holds .zero := by
  have still : (0 : Int16).toInt = 0 := rfl
  unfold Around at around
  unfold Holds MotionVector.zero side
  rw [still]
  omega

theorem Around.clamp (around : reach.Around) (v : MotionVector) : reach.Holds (reach.clamp v) := by
  have row := MotionVector.toInt_bounds v.row
  have col := MotionVector.toInt_bounds v.col
  unfold Around at around
  unfold Holds Reach.clamp MotionVector.ofInts saturate side
  dsimp only
  rw [MotionVector.toInt_ofInt (by omega) (by omega),
    MotionVector.toInt_ofInt (by omega) (by omega)]
  omega

end Reach

namespace Mode

theorem isInter_ofIntraLeaf (leaf : Nat) : (ofIntraLeaf leaf).isInter = false := by
  unfold ofIntraLeaf
  split <;> rfl

theorem isInter_ofInterLeaf (leaf : Nat) : (ofInterLeaf leaf).isInter = true := by
  unfold ofInterLeaf
  split <;> rfl

end Mode

namespace Macroblock

structure WellFormed (keyframe : Bool) (reach : Reach) (m : Macroblock) : Prop where
  reference : m.reference = .current ↔ m.mode.isInter = false
  keyframe : keyframe = true → m.reference = .current
  still : m.reference = .current → m.vector = .zero ∧ ∀ k, m.vectors.get k = .zero
  whole : m.mode ≠ .split → ∀ k, m.vectors.get k = m.vector
  last : m.mode = .split → m.vector = m.vectors.get 15
  parts : m.mode = .split → ∀ j k, m.split.parts.get j = m.split.parts.get k →
    m.vectors.get j = m.vectors.get k
  /-- Only a vector that is coded can point out of reach. -/
  predicted : m.mode = .nearest ∨ m.mode = .near ∨ m.mode = .zero → reach.Holds m.vector
  needsClamp : m.needsClamp = true ↔ ∃ k, ¬ reach.Holds (m.vectors.get k)
  /-- The neighbours count on the modes of sub-blocks also where none are coded. -/
  implied : m.reference = .current → m.mode ≠ .subblocks →
    ∀ k, m.subblockModes.get k = m.mode.impliedSubblockMode
  segment : m.segment < 4

variable {m : Macroblock} {reach : Reach} {keyframe : Bool}

theorem WellFormed.ofIntra (around : reach.Around) (reference : m.reference = .current)
    (intra : m.mode.isInter = false) (vector : m.vector = .zero)
    (vectors : m.vectors = .replicate 16 .zero) (free : m.needsClamp = false)
    (implied : m.mode ≠ .subblocks → ∀ k, m.subblockModes.get k = m.mode.impliedSubblockMode)
    (segment : m.segment < 4) : WellFormed keyframe reach m := by
  have whole : m.mode ≠ .split := by
    intro split
    rw [split] at intra
    contradiction
  exact {
    reference := iff_of_true reference intra
    keyframe := fun _ => reference
    still := fun _ => ⟨vector, by simp [vectors]⟩
    whole := by simp [vectors, vector]
    last := fun split => absurd split whole
    parts := fun split => absurd split whole
    predicted := fun _ => vector ▸ around.zero
    needsClamp := by simp [free, vectors, around.zero]
    implied := fun _ => implied
    segment := segment }

theorem WellFormed.ofWhole (other : m.reference ≠ .current) (inter : m.mode.isInter = true)
    (whole : m.mode ≠ .split) (vectors : m.vectors = .replicate 16 m.vector)
    (predicted : m.mode ≠ .new → reach.Holds m.vector)
    (needsClamp : m.needsClamp = reach.outside m.vector) (segment : m.segment < 4) :
    WellFormed false reach m where
  reference := iff_of_false other (by simp [inter])
  keyframe := nofun
  still current := absurd current other
  whole _ := by simp [vectors]
  last split := absurd split whole
  parts split := absurd split whole
  predicted mode := predicted (by rcases mode with mode | mode | mode <;> simp [mode])
  needsClamp := by simp [needsClamp, vectors, Reach.outside_iff]
  implied current := absurd current other
  segment := segment

theorem WellFormed.ofSplit (other : m.reference ≠ .current) (split : m.mode = .split)
    (last : m.vector = m.vectors.get 15) (filled : Filled m.split m.split.count m.vectors)
    (needsClamp : m.needsClamp = m.vectors.any reach.outside) (segment : m.segment < 4) :
    WellFormed false reach m where
  reference := iff_of_false other (by simp [split, Mode.isInter])
  keyframe := nofun
  still current := absurd current other
  whole whole := absurd split whole
  last _ := last
  parts _ j k := filled j k (part_lt m.split j)
  predicted := by simp [split]
  needsClamp := by
    rw [needsClamp, Vector.any_eq_true]
    simp only [Reach.outside_iff]
    exact ⟨fun ⟨k, lt, outside⟩ => ⟨⟨k, lt⟩, outside⟩, fun ⟨k, outside⟩ => ⟨k, k.isLt, outside⟩⟩
  implied current := absurd current other
  segment := segment

structure Empty (m : Macroblock) : Prop where
  reference : m.reference = .current
  vector : m.vector = .zero
  vectors : m.vectors = .replicate 16 .zero
  needsClamp : m.needsClamp = false
  segment : m.segment < 4

theorem readIntra_wellFormed (around : reach.Around) (empty : m.Empty) (luma : Coded Nat)
    (subblocks : Coded (Vector SubblockMode 16)) (chroma : Coded Nat) :
    (m.readIntra luma subblocks chroma).Yields (WellFormed keyframe reach) := by
  have filled (leaf : Nat) {modes : Vector SubblockMode 16} (chromaMode : Mode)
      (implied : Mode.ofIntraLeaf leaf ≠ .subblocks →
        ∀ k, modes.get k = (Mode.ofIntraLeaf leaf).impliedSubblockMode) :
      WellFormed keyframe reach
        { m with mode := .ofIntraLeaf leaf, subblockModes := modes, chromaMode } :=
    .ofIntra around empty.reference (Mode.isInter_ofIntraLeaf leaf) empty.vector empty.vectors
      empty.needsClamp implied empty.segment
  unfold readIntra
  apply Coded.Yields.after
  intro leaf
  dsimp only
  split
  · rename_i parted
    apply Coded.Yields.after
    intro modes
    apply Coded.Yields.after
    intro chromaLeaf
    exact filled leaf _ fun whole => absurd parted whole
  · rw [pure_bind]
    apply Coded.Yields.after
    intro chromaLeaf
    exact filled leaf _ fun _ => get_replicate _

theorem readReference_other (header : FrameHeader) :
    (readReference header).Yields (· ≠ .current) := by
  unfold readReference
  apply Coded.Yields.after
  intro other
  split
  · apply Coded.Yields.after
    intro second
    split <;> exact nofun
  · exact nofun

theorem readSplit_wellFormed (other : m.reference ≠ .current) (split : m.mode = .split)
    (segment : m.segment < 4) (probs : VectorProbs) (best : MotionVector)
    (above left : Macroblock) :
    (m.readSplit probs best reach above left).Yields (WellFormed false reach) := by
  unfold readSplit
  apply Coded.Yields.after
  intro leaf
  apply (readParts_filled probs best (.ofLeaf leaf) above.vectors left.vectors).bind
  intro vectors filled
  exact .ofSplit other split rfl filled rfl segment

theorem wellFormed_candidate (empty : m.Empty) {reference : Reference}
    (other : reference ≠ .current) {mode : Mode} (inter : mode.isInter = true)
    (whole : mode ≠ .split) {v : MotionVector} (holds : reach.Holds v) :
    WellFormed false reach ({ m with reference, mode }.withVector v) := by
  have inside : reach.outside v = false := by
    rw [Bool.eq_false_iff, Ne, Reach.outside_iff, not_not]
    exact holds
  exact .ofWhole other inter whole rfl (fun _ => holds) (empty.needsClamp.trans inside.symm)
    empty.segment

variable {rows cols : Nat}

theorem readInter_wellFormed (empty : m.Empty) (ctx : ModeContext) (g : Grid rows cols)
    (r : Fin rows) (c : Fin cols) :
    (m.readInter ctx g r c).Yields (WellFormed false (.ofPosition r c rows cols)) := by
  have around := Reach.ofPosition_around r c
  unfold readInter
  apply (readReference_other ctx.header).bind
  intro reference other
  apply Coded.Yields.after
  intro leaf
  have inter := Mode.isInter_ofInterLeaf leaf
  dsimp only
  cases mode : Mode.ofInterLeaf leaf with
  | nearest | near =>
    apply wellFormed_candidate empty
    exacts [other, rfl, nofun, around.clamp _]
  | zero =>
    apply wellFormed_candidate empty
    exacts [other, rfl, nofun, around.zero]
  | new =>
    apply Coded.Yields.after
    intro v
    exact .ofWhole other rfl nofun rfl (fun old => absurd rfl old) rfl empty.segment
  | split =>
    apply readSplit_wellFormed
    exacts [other, rfl, empty.segment]
  | _ =>
    rw [mode] at inter
    contradiction

theorem read_wellFormed (ctx : ModeContext) (g : Grid rows cols) (r : Fin rows) (c : Fin cols)
    (small : (g.get r c).segment < 4) :
    (read ctx g r c).Yields (WellFormed ctx.keyframe (.ofPosition r c rows cols)) := by
  have around := Reach.ofPosition_around r c
  unfold read
  apply (readSegment_small ctx small).bind
  intro segment known
  apply Coded.Yields.after
  intro skipped
  have empty : Empty { Macroblock.default with segment, skipped } := ⟨rfl, rfl, rfl, rfl, known⟩
  dsimp only
  cases keyframe : ctx.keyframe with
  | true => exact readIntra_wellFormed around empty _ _ _
  | false =>
    apply Coded.Yields.after
    intro inter
    split
    · exact readInter_wellFormed empty ctx g r c
    · exact readIntra_wellFormed around empty _ _ _

end Macroblock

namespace Grid

variable {rows cols : Nat}

/-- Whatever is read, every macroblock of the grid is well-formed afterwards, and the frame around
    the grid is as it was. The grid may hold anything before, as long as its segments are known. -/
theorem readModes_wellFormed (ctx : ModeContext) {g : Grid rows cols}
    (small : ∀ y x, (g.get y x).segment < 4) (reader : BoolReader) :
    let done := (g.readModes ctx).read reader
    (∀ y x, (done.1.get y x).WellFormed ctx.keyframe (.ofPosition y x rows cols)) ∧
      (Framed.readModes ctx g.table).read reader = (done.1.table, done.2) ∧
      Framed.Bordered done.1.table := by
  dsimp only
  have cells := readModes_replaces (Q := fun _ _ m => m.segment < 4)
    (P := fun y x => Macroblock.WellFormed ctx.keyframe (.ofPosition y x rows cols))
    (Macroblock.read_wellFormed ctx) small
  obtain ⟨table, rest⟩ := (Framed.readModes_related ctx g).read reader
  exact ⟨cells.read reader, Prod.ext table rest, Framed.table_bordered _⟩

def evenContext : ModeContext where
  keyframe := false
  header := {
    colourSpace := 0, clampingType := 0, filterKind := .normal, filterLevel := 0, sharpness := 0
    partitions := 1, quantizer := ⟨0, 0, 0, 0, 0, 0⟩
    references := .all, signBias := ⟨true, false⟩, refreshEntropy := true
    skipProb := none, intraProb := 128, lastProb := 128, goldenProb := 128 }
  segmentation := .default
  entropy := .default

def lastSegments : Grid 2 2 :=
  ⟨.replicate 2 (.replicate 2 { Macroblock.default with segment := 3 })⟩

/-- Intra, a vector out of reach, two parts, no motion. -/
def mixedModes : ByteArray := ⟨#[21, 250, 76, 240, 158, 54, 77, 220, 13, 66]⟩

theorem mixedModes_wellFormed :
    let done := (lastSegments.readModes evenContext).read (.ofBytes mixedModes)
    (∀ y x, (lastSegments.get y x).segment < 4) ∧
      (done.1.get 0 1).needsClamp = true ∧ (done.1.get 1 0).mode = .split ∧
      (∀ y x, (done.1.get y x).WellFormed false (.ofPosition y x 2 2)) ∧
      (Framed.readModes evenContext lastSegments.table).read (.ofBytes mixedModes) =
        (done.1.table, done.2) ∧
      Framed.Bordered done.1.table := by
  have small : ∀ y x, (lastSegments.get y x).segment < 4 := by decide
  exact ⟨small, by decide +kernel, by decide +kernel,
    readModes_wellFormed evenContext small (.ofBytes mixedModes)⟩

end Grid

end Vp8
