import Vp8.Proofs.Macroblock.KeyframePlan
import Vp8.Proofs.Macroblock.VectorCode
import Vp8.Proofs.Macroblock.WellFormed

/-!
Macroblocks of inter frames as they are planned, and how a plan is written next to the macroblocks
around. A plan names where vectors come from; which vectors these are, and with which probabilities
they are coded, follows from the neighbours.
-/
namespace Vp8

inductive PartPlan where
  | left
  | above
  | zero
  | new (delta : VectorDelta)
  deriving DecidableEq

namespace PartPlan

def leaf : PartPlan → Nat
  | left => 0
  | above => 1
  | zero => 2
  | new _ => 3

def vector (best left above : MotionVector) : PartPlan → MotionVector
  | .left => left
  | .above => above
  | .zero => .zero
  | .new delta => delta.vector.add best

def deltaChoices (probs : VectorProbs) : PartPlan → List Choice
  | .new delta => delta.choices probs
  | _ => []

def choices (probs : VectorProbs) (left above : MotionVector) (plan : PartPlan) : List Choice :=
  let partProbs := PartVector.probTable.get (PartVector.context left above)
  PartVector.tree.choices partProbs.toArray plan.leaf 0 ++ plan.deltaChoices probs

theorem tree_holds (plan : PartPlan) : (PartVector.tree.path? plan.leaf 0).isSome := by
  cases plan <;> rfl

end PartPlan

inductive MotionPlan where
  | zero
  | nearest
  | near
  | new (delta : VectorDelta)
  | split (shape : Split) (parts : Fin shape.count → PartPlan)

namespace MotionPlan

def leaf : MotionPlan → Nat
  | zero => 0
  | nearest => 1
  | near => 2
  | new _ => 3
  | split _ _ => 4

def mode : MotionPlan → Mode
  | zero => .zero
  | nearest => .nearest
  | near => .near
  | new _ => .new
  | split _ _ => .split

def shape : MotionPlan → Split
  | split shape _ => shape
  | _ => .topBottom

theorem ofInterLeaf_leaf (plan : MotionPlan) : Mode.ofInterLeaf plan.leaf = plan.mode := by
  cases plan <;> rfl

theorem interTree_holds (plan : MotionPlan) : (Mode.interTree.path? plan.leaf 0).isSome := by
  cases plan <;> rfl

end MotionPlan

namespace Split

theorem ofLeaf_index (s : Split) : ofLeaf s.index = s := by cases s <;> rfl

theorem tree_holds (s : Split) : (tree.path? s.index 0).isSome := by cases s <;> rfl

def partOf (s : Split) (k : Fin 16) : Fin s.count := ⟨s.parts.get k, Macroblock.part_lt s k⟩

/-- The sub-block whose neighbours a part is coded against. -/
def leader (s : Split) (k : Fin 16) : Fin 16 := s.first (s.partOf k)

theorem part_left (s : Split) (part : Fin s.count) {j : Fin 16}
    (inner : (s.first part).val % 4 ≠ 0) (next : j.val + 1 = s.first part) :
    s.parts.get j < part := by
  revert part j
  cases s <;> decide

theorem part_above (s : Split) (part : Fin s.count) {j : Fin 16} (next : j.val + 4 = s.first part) :
    s.parts.get j < part := by
  revert part j
  cases s <;> decide

end Split

namespace Macroblock

theorem readNewVector_path (probs : VectorProbs) (best : MotionVector) (delta : VectorDelta) :
    (readNewVector probs best).Path (delta.choices probs) (delta.vector.add best) :=
  (delta.read_path probs).map (·.add best)

theorem readPartVector_path (probs : VectorProbs) (best left above : MotionVector)
    (plan : PartPlan) :
    (readPartVector probs best left above).Path (plan.choices probs left above)
      (plan.vector best left above) := by
  unfold readPartVector PartPlan.choices
  apply (CodeTree.read_path plan.tree_holds _ _).bind
  cases plan with
  | new delta => exact readNewVector_path probs best delta
  | _ => exact .value _

def writePart (probs : VectorProbs) (best : MotionVector) (shape : Split)
    (parts : Fin shape.count → PartPlan) (above left own : Vector MotionVector 16)
    (part : Fin shape.count) : Vector MotionVector 16 × List Choice :=
  let k := shape.first part
  let l := leftOf left own k
  let a := aboveOf above own k
  (fillPart shape part ((parts part).vector best l a) own, (parts part).choices probs l a)

def writeParts (probs : VectorProbs) (best : MotionVector) (shape : Split)
    (parts : Fin shape.count → PartPlan) (above left : Vector MotionVector 16) :
    Vector MotionVector 16 × List Choice :=
  Coded.writeEach (writePart probs best shape parts above left) (List.finRange shape.count)
    (.replicate 16 .zero)

theorem leftOf_congr (left : Vector MotionVector 16) {own other : Vector MotionVector 16}
    {shape : Split} (part : Fin shape.count)
    (same : ∀ j, shape.parts.get j < part → own.get j = other.get j) :
    leftOf left own (shape.first part) = leftOf left other (shape.first part) := by
  unfold leftOf
  split
  · rfl
  · rename_i inner
    exact same ⟨shape.first part - 1, by omega⟩
      (shape.part_left part inner (by dsimp only; omega))

theorem aboveOf_congr (above : Vector MotionVector 16) {own other : Vector MotionVector 16}
    {shape : Split} (part : Fin shape.count)
    (same : ∀ j, shape.parts.get j < part → own.get j = other.get j) :
    aboveOf above own (shape.first part) = aboveOf above other (shape.first part) := by
  unfold aboveOf
  split
  · rfl
  · exact same ⟨shape.first part - 4, by omega⟩ (shape.part_above part (by dsimp only; omega))

def partVector (best : MotionVector) {shape : Split} (parts : Fin shape.count → PartPlan)
    (left above : Fin 16 → MotionVector) (k : Fin 16) : MotionVector :=
  (parts (shape.partOf k)).vector best (left (shape.leader k)) (above (shape.leader k))

/-- All vectors are as planned, next to one another. -/
theorem writeParts_get (probs : VectorProbs) (best : MotionVector) (shape : Split)
    (parts : Fin shape.count → PartPlan) (above left : Vector MotionVector 16) (k : Fin 16) :
    let own := (writeParts probs best shape parts above left).1
    own.get k = partVector best parts (leftOf left own) (aboveOf above own) k := by
  unfold writeParts
  apply Coded.writeEach_invariant
    (fun part own => shape.parts.get k < part →
      own.get k = partVector best parts (leftOf left own) (aboveOf above own) k)
  · intro part own known before
    have behind : (shape.partOf k).val ≤ part := Nat.lt_succ_iff.mp before
    have kept (v : MotionVector) (j : Fin 16) (earlier : shape.parts.get j < shape.partOf k) :
        (fillPart shape part v own).get j = own.get j :=
      (get_fillPart shape part v own j).trans (if_neg (by omega))
    unfold writePart partVector Split.leader
    dsimp only
    rw [leftOf_congr left _ (kept _), aboveOf_congr above _ (kept _), get_fillPart]
    by_cases here : shape.parts.get k = part
    · have same : shape.partOf k = part := Fin.ext here
      rw [if_pos here, same]
    · rw [if_neg here]
      exact known (by omega)
  · exact nofun
  · exact part_lt shape k

/-- The parts determine one another from the first to the last. -/
theorem partVector_unique {best : MotionVector} {shape : Split} {parts : Fin shape.count → PartPlan}
    {above left own other : Vector MotionVector 16}
    (planned : ∀ k, own.get k = partVector best parts (leftOf left own) (aboveOf above own) k)
    (alike : ∀ k, other.get k = partVector best parts (leftOf left other) (aboveOf above other) k)
    (k : Fin 16) : own.get k = other.get k := by
  have same (j : Fin 16) (earlier : shape.parts.get j < shape.partOf k) : own.get j = other.get j :=
    partVector_unique planned alike j
  rw [planned k, alike k]
  unfold partVector Split.leader
  rw [leftOf_congr left _ same, aboveOf_congr above _ same]
termination_by shape.parts.get k

theorem readParts_path (probs : VectorProbs) (best : MotionVector) (shape : Split)
    (parts : Fin shape.count → PartPlan) (above left : Vector MotionVector 16) :
    (readParts probs best shape above left).Path
      (writeParts probs best shape parts above left).2
      (writeParts probs best shape parts above left).1 := by
  unfold readParts writeParts
  rw [foldlM_range]
  apply Coded.Path.writeEach
  intro own part
  exact (readPartVector_path _ _ _ _ (parts part)).map fun v => fillPart shape part v own

end Macroblock

/-- What a macroblock is coded against: the macroblocks around it, and how far it lies from the
    edges of the picture. -/
structure Surroundings where
  reach : Reach
  around : reach.Around
  above : Macroblock
  left : Macroblock
  aboveLeft : Macroblock

namespace Surroundings

def candidates (s : Surroundings) (bias : SignBias) (reference : Reference) : Candidates :=
  .search bias reference [(s.above, 2), (s.left, 2), (s.aboveLeft, 1)]

end Surroundings

namespace MotionPlan

def vectorAt (reach : Reach) (candidates : Candidates) (left above : Fin 16 → MotionVector) :
    MotionPlan → Fin 16 → MotionVector
  | zero, _ => .zero
  | nearest, _ => reach.clamp candidates.nearest
  | near, _ => reach.clamp candidates.near
  | new delta, _ => delta.vector.add (reach.clamp candidates.best)
  | split _ parts, k => Macroblock.partVector (reach.clamp candidates.best) parts left above k

def write (probs : VectorProbs) (s : Surroundings) (candidates : Candidates) :
    MotionPlan → Vector MotionVector 16 × List Choice
  | zero => (.replicate 16 .zero, [])
  | nearest => (.replicate 16 (s.reach.clamp candidates.nearest), [])
  | near => (.replicate 16 (s.reach.clamp candidates.near), [])
  | new delta =>
    (.replicate 16 (delta.vector.add (s.reach.clamp candidates.best)), delta.choices probs)
  | split shape parts =>
    let written := Macroblock.writeParts probs (s.reach.clamp candidates.best) shape parts
      s.above.vectors s.left.vectors
    (written.1, Split.tree.choices Split.probs.toArray shape.index 0 ++ written.2)

theorem write_get (plan : MotionPlan) (probs : VectorProbs) (s : Surroundings)
    (candidates : Candidates) (k : Fin 16) :
    let own := (plan.write probs s candidates).1
    own.get k = plan.vectorAt s.reach candidates (Macroblock.leftOf s.left.vectors own)
      (Macroblock.aboveOf s.above.vectors own) k := by
  cases plan with
  | split shape parts => exact Macroblock.writeParts_get _ _ _ _ _ _ k
  | _ => exact get_replicate _ k

theorem vectorAt_unique (plan : MotionPlan) {reach : Reach} {candidates : Candidates}
    {left above own other : Vector MotionVector 16}
    (planned : ∀ k, own.get k = plan.vectorAt reach candidates (Macroblock.leftOf left own)
      (Macroblock.aboveOf above own) k)
    (alike : ∀ k, other.get k = plan.vectorAt reach candidates (Macroblock.leftOf left other)
      (Macroblock.aboveOf above other) k) :
    own = other := by
  apply ext_get
  cases plan with
  | split shape parts => exact Macroblock.partVector_unique planned alike
  | _ => exact fun k => (planned k).trans (alike k).symm

def place (m : Macroblock) (reach : Reach) (reference : Reference)
    (vectors : Vector MotionVector 16) (plan : MotionPlan) : Macroblock :=
  { m with
    reference, vectors
    mode := plan.mode
    split := plan.shape
    vector := vectors.get 15
    needsClamp := vectors.any reach.outside }

end MotionPlan

namespace Macroblock

def referenceChoices (header : FrameHeader) : Reference → List Choice
  | .golden => [⟨header.lastProb, true⟩, ⟨header.goldenProb, false⟩]
  | .altref => [⟨header.lastProb, true⟩, ⟨header.goldenProb, true⟩]
  | _ => [⟨header.lastProb, false⟩]

theorem readReference_path (header : FrameHeader) {reference : Reference}
    (other : reference ≠ .current) :
    (readReference header).Path (referenceChoices header reference) reference := by
  cases reference with
  | current => exact absurd rfl other
  | last => exact .choice false (.value _)
  | golden => exact .choice true (.choice false (.value _))
  | altref => exact .choice true (.choice true (.value _))

variable {m : Macroblock} {reach : Reach} (reference : Reference) {plan : MotionPlan}
  {v : MotionVector}

theorem withVector_place (whole : m.split = .topBottom) (shape : plan.shape = .topBottom) :
    { { m with reference, mode := plan.mode }.withVector v with needsClamp := reach.outside v } =
      plan.place m reach reference (.replicate 16 v) := by
  simp [withVector, MotionPlan.place, shape, whole]

theorem withVector_place_of_holds (unlimited : m.needsClamp = false) (whole : m.split = .topBottom)
    (shape : plan.shape = .topBottom) (holds : reach.Holds v) :
    { m with reference, mode := plan.mode }.withVector v =
      plan.place m reach reference (.replicate 16 v) := by
  rw [← withVector_place reference whole shape]
  have inside : reach.outside v = false := by
    rw [Bool.eq_false_iff, Ne, Reach.outside_iff, not_not]
    exact holds
  rw [inside, ← unlimited]
  rfl

end Macroblock

def Grid.surroundings {rows cols : Nat} (g : Grid rows cols) (r : Fin rows) (c : Fin cols) :
    Surroundings where
  reach := .ofPosition r c rows cols
  around := Reach.ofPosition_around r c
  above := g.above r c
  left := g.left r c
  aboveLeft := g.aboveLeft r c

namespace Macroblock

variable {rows cols : Nat}

def interChoices (ctx : ModeContext) (s : Surroundings) (reference : Reference)
    (motion : MotionPlan) : List Choice :=
  let candidates := s.candidates ctx.header.signBias reference
  referenceChoices ctx.header reference ++
    (Mode.interTree.choices candidates.modeProbs.toArray motion.leaf 0 ++
      (motion.write ctx.entropy.vectors s candidates).2)

theorem readInter_path {m : Macroblock} (unlimited : m.needsClamp = false)
    (whole : m.split = .topBottom) (ctx : ModeContext) (g : Grid rows cols) (r : Fin rows)
    (c : Fin cols) {reference : Reference} (other : reference ≠ .current) (motion : MotionPlan) :
    let s := g.surroundings r c
    let candidates := s.candidates ctx.header.signBias reference
    (m.readInter ctx g r c).Path (interChoices ctx s reference motion)
      (motion.place m s.reach reference (motion.write ctx.entropy.vectors s candidates).1) := by
  intro s candidates
  unfold readInter interChoices
  apply (readReference_path ctx.header other).bind
  apply (CodeTree.read_path motion.interTree_holds _ _).bind
  dsimp only
  rw [motion.ofInterLeaf_leaf]
  have candidate {v : MotionVector} {plan : MotionPlan} (holds : s.reach.Holds v)
      (shape : plan.shape = .topBottom) :
      (Coded.value ({ m with reference, mode := plan.mode }.withVector v)).Path []
        (plan.place m s.reach reference (.replicate 16 v)) :=
    (Coded.Path.value _).congr (withVector_place_of_holds reference unlimited whole shape holds)
  cases motion with
  | zero => exact candidate s.around.zero (Eq.refl MotionPlan.zero.shape)
  | nearest =>
    exact candidate (s.around.clamp candidates.nearest) (Eq.refl MotionPlan.nearest.shape)
  | near => exact candidate (s.around.clamp candidates.near) (Eq.refl MotionPlan.near.shape)
  | new delta =>
    have path := (readNewVector_path ctx.entropy.vectors (s.reach.clamp candidates.best) delta).map
      fun v => { { m with reference, mode := .new }.withVector v with
        needsClamp := s.reach.outside v }
    exact path.congr (withVector_place reference whole (Eq.refl (MotionPlan.new delta).shape))
  | split shape parts =>
    apply (CodeTree.read_path shape.tree_holds _ _).bind
    dsimp only
    rw [shape.ofLeaf_index]
    exact (readParts_path _ _ shape parts _ _).map _

end Macroblock

end Vp8
