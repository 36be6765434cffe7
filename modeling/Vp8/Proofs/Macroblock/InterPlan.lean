import Vp8.Proofs.Lattice
import Vp8.Proofs.Macroblock.MotionPlan

/-!
Inter frames as they are planned. The writer keeps a grid of what it has written so far, as the
reader keeps one of what it has read. In the end both have the same grid, the only one in which every
vector is what its plan makes of the vectors around it.
-/
namespace Vp8

theorem IntraLuma.intraTree_holds (luma : IntraLuma) :
    (Mode.intraTree.path? luma.leaf 0).isSome := by
  rcases luma with (_ | _ | _ | _) | modes <;> rfl

inductive PredictionPlan where
  | intra (luma : IntraLuma) (chroma : WholeMode)
  | inter (reference : Reference) (other : reference ≠ .current) (motion : MotionPlan)

namespace PredictionPlan

def place (m : Macroblock) (reach : Reach) (vectors : Vector MotionVector 16) :
    PredictionPlan → Macroblock
  | intra luma chroma =>
    { m with mode := luma.mode, subblockModes := luma.modes, chromaMode := chroma.mode }
  | inter reference _ motion => motion.place m reach reference vectors

def vectorAt (reach : Reach) (candidates : Reference → Candidates)
    (left above : Fin 16 → MotionVector) : PredictionPlan → Fin 16 → MotionVector
  | intra _ _, _ => .zero
  | inter reference _ motion, k => motion.vectorAt reach (candidates reference) left above k

/-- The sub-block modes of an inter frame are coded without regard to neighbours. -/
def intraChoices (entropy : EntropyTables) (luma : IntraLuma) (chroma : WholeMode) :
    List Choice :=
  Mode.intraTree.choices entropy.lumaModes.toArray luma.leaf 0 ++
    (luma.subblockChoices (fun k =>
      SubblockMode.tree.choices SubblockMode.interProbs.toArray (luma.modes.get k).index 0) ++
    Mode.chromaTree.choices entropy.chromaModes.toArray chroma.leaf 0)

/-- The vectors of all sub-blocks, with all that is written of the prediction. -/
def write (ctx : ModeContext) (s : Surroundings) :
    PredictionPlan → Vector MotionVector 16 × List Choice
  | intra luma chroma =>
    (.replicate 16 .zero,
      ⟨ctx.header.intraProb, false⟩ :: intraChoices ctx.entropy luma chroma)
  | inter reference _ motion =>
    ((motion.write ctx.entropy.vectors s (s.candidates ctx.header.signBias reference)).1,
      ⟨ctx.header.intraProb, true⟩ :: Macroblock.interChoices ctx s reference motion)

theorem write_get (plan : PredictionPlan) (ctx : ModeContext) (s : Surroundings) (k : Fin 16) :
    let own := (plan.write ctx s).1
    own.get k = plan.vectorAt s.reach (s.candidates ctx.header.signBias)
      (Macroblock.leftOf s.left.vectors own) (Macroblock.aboveOf s.above.vectors own) k := by
  cases plan with
  | intra luma chroma => exact get_replicate _ k
  | inter reference other motion => exact motion.write_get _ _ _ k

theorem write_unique (plan : PredictionPlan) (ctx : ModeContext) (s : Surroundings)
    {own : Vector MotionVector 16}
    (planned : ∀ k, own.get k = plan.vectorAt s.reach (s.candidates ctx.header.signBias)
      (Macroblock.leftOf s.left.vectors own) (Macroblock.aboveOf s.above.vectors own) k) :
    own = (plan.write ctx s).1 := by
  have written := plan.write_get ctx s
  cases plan with
  | intra luma chroma => exact ext_get fun k => (planned k).trans (written k).symm
  | inter reference other motion => exact motion.vectorAt_unique planned written

end PredictionPlan

structure MacroblockPlan where
  segment : Fin 4
  skipped : Bool
  prediction : PredictionPlan

namespace MacroblockPlan

/-- The macroblock of a plan, given its vectors. A segment that the frame does not code stays what
    it was, and without a probability for it there is no flag. -/
def macroblock (plan : MacroblockPlan) (ctx : ModeContext) (old : Nat) (reach : Reach)
    (vectors : Vector MotionVector 16) : Macroblock :=
  plan.prediction.place
    { Macroblock.default with
      segment := if ctx.segmentation.updateMap then plan.segment else old
      skipped := ctx.header.skipProb.isSome && plan.skipped } reach vectors

def write (plan : MacroblockPlan) (ctx : ModeContext) (old : Nat) (s : Surroundings) :
    Macroblock × List Choice :=
  let written := plan.prediction.write ctx s
  (plan.macroblock ctx old s.reach written.1,
    Macroblock.segmentChoices ctx plan.segment ++
      (Macroblock.skippedChoices ctx plan.skipped ++ written.2))

theorem write_vectors (plan : MacroblockPlan) (ctx : ModeContext) (old : Nat) (s : Surroundings) :
    (plan.write ctx old s).1.vectors = (plan.prediction.write ctx s).1 := by
  unfold write macroblock
  cases plan.prediction <;> rfl

end MacroblockPlan

namespace Macroblock

variable {rows cols : Nat}

theorem readInterSubblocks_path (modes : Vector SubblockMode 16) :
    readInterSubblocks.Path ((List.finRange 16).flatMap fun k =>
      SubblockMode.tree.choices SubblockMode.interProbs.toArray (modes.get k).index 0) modes := by
  apply Coded.readEach_path
  intro k _
  have leaf := CodeTree.read_path (modes.get k).tree_holds SubblockMode.interProbs (by decide)
  exact (leaf.map SubblockMode.ofLeaf).congr (SubblockMode.ofLeaf_index _)

theorem readInterIntra_path (m : Macroblock) (entropy : EntropyTables) (luma : IntraLuma)
    (chroma : WholeMode) :
    (m.readInterIntra entropy).Path (PredictionPlan.intraChoices entropy luma chroma)
      { m with mode := luma.mode, subblockModes := luma.modes, chromaMode := chroma.mode } := by
  apply readIntra_path
  · exact CodeTree.read_path luma.intraTree_holds _ _
  · exact readInterSubblocks_path _
  · exact CodeTree.read_path chroma.chromaTree_holds _ _

theorem read_inter_path {ctx : ModeContext} (inter : ctx.keyframe = false) (plan : MacroblockPlan)
    (g : Grid rows cols) (r : Fin rows) (c : Fin cols) :
    let written := plan.write ctx (g.get r c).segment (g.surroundings r c)
    (read ctx g r c).Path written.2 written.1 := by
  unfold read MacroblockPlan.write
  apply (readSegment_path ctx plan.segment _).bind
  apply (readSkipped_path ctx plan.skipped).bind
  dsimp only
  rw [inter]
  unfold MacroblockPlan.macroblock
  cases plan.prediction with
  | intra luma chroma => exact .choice false (readInterIntra_path _ _ luma chroma)
  | inter reference other motion =>
    exact .choice true (readInter_path rfl rfl ctx g r c other motion)

end Macroblock

abbrev InterPlan (rows cols : Nat) := Fin rows → Fin cols → MacroblockPlan

namespace InterPlan

variable {rows cols : Nat} (plan : InterPlan rows cols) (ctx : ModeContext)

def writeMacroblock (r : Fin rows) (g : Grid rows cols) (c : Fin cols) :
    Grid rows cols × List Choice :=
  let written := (plan r c).write ctx (g.get r c).segment (g.surroundings r c)
  (g.set r c written.1, written.2)

def writeRow (g : Grid rows cols) (r : Fin rows) : Grid rows cols × List Choice :=
  Coded.writeEach (plan.writeMacroblock ctx r) (List.finRange cols) g

def writeGrid (g : Grid rows cols) : Grid rows cols × List Choice :=
  Coded.writeEach (plan.writeRow ctx) (List.finRange rows) g

def write (g : Grid rows cols) : ByteArray := encodeChoices (plan.writeGrid ctx g).2

variable {ctx}

theorem readModes_path (inter : ctx.keyframe = false) (g : Grid rows cols) :
    (g.readModes ctx).Path (plan.writeGrid ctx g).2 (plan.writeGrid ctx g).1 := by
  apply Coded.Path.writeEach
  intro g r
  apply Coded.Path.writeEach
  intro g c
  exact (Macroblock.read_inter_path inter (plan r c) g r c).map (g.set r c ·)

variable (ctx)

structure Placed (old : Grid rows cols) (r c : Nat) (g : Grid rows cols) : Prop where
  before : ∀ y x, Grid.Before r c y x →
    g.get y x = ((plan y x).write ctx (old.get y x).segment (g.surroundings y x)).1
  behind : ∀ y x, ¬ Grid.Before r c y x → g.get y x = old.get y x

variable {plan ctx} {old g : Grid rows cols}

theorem surroundings_congr {g h : Grid rows cols} {r : Fin rows} {c : Fin cols}
    (same : ∀ y x, Grid.Before r c y x → g.get y x = h.get y x) :
    g.surroundings r c = h.surroundings r c := by
  unfold Grid.surroundings Grid.above Grid.left Grid.aboveLeft
  congr 1
  all_goals
    split
    · apply same
      unfold Grid.Before
      dsimp only
      omega
    · rfl

theorem surroundings_set {r y : Fin rows} {c x : Fin cols} (before : Grid.Before r (c + 1) y x)
    (m : Macroblock) : (g.set r c m).surroundings y x = g.surroundings y x := by
  apply surroundings_congr
  intro j i earlier
  rw [Grid.get_set, if_neg]
  rintro ⟨rfl, rfl⟩
  omega

theorem Placed.macroblock {r : Fin rows} {c : Fin cols} (placed : Placed plan ctx old r c g) :
    Placed plan ctx old r (c + 1) (plan.writeMacroblock ctx r g c).1 where
  before y x before := by
    unfold writeMacroblock
    dsimp only
    rw [Grid.get_set, surroundings_set before]
    split
    · rename_i here
      obtain ⟨rfl, rfl⟩ := here
      rw [placed.behind r c (by omega)]
    · rename_i other
      exact placed.before y x (before.passed.resolve_left other)
  behind y x behind := by
    unfold writeMacroblock
    dsimp only
    rw [Grid.get_set, if_neg]
    · exact placed.behind y x (by omega)
    · rintro ⟨rfl, rfl⟩
      omega

theorem Placed.row {r : Fin rows} (placed : Placed plan ctx old r 0 g) :
    Placed plan ctx old (r + 1) 0 (plan.writeRow ctx g r).1 := by
  have line := Coded.writeEach_invariant (Placed plan ctx old r)
    (fun c g placed => placed.macroblock) placed
  constructor
  · intro y x before
    have := x.isLt
    exact line.before y x (by omega)
  · intro y x behind
    exact line.behind y x (by omega)

/-- In the grid of a plan, every macroblock is as planned next to those around it. -/
theorem writeGrid_get (plan : InterPlan rows cols) (ctx : ModeContext) (old : Grid rows cols)
    (r : Fin rows) (c : Fin cols) :
    let g := (plan.writeGrid ctx old).1
    g.get r c = ((plan r c).write ctx (old.get r c).segment (g.surroundings r c)).1 := by
  have start : Placed plan ctx old 0 0 old :=
    ⟨fun y x before => by omega, fun _ _ _ => rfl⟩
  have placed := Coded.writeEach_invariant (fun r => Placed plan ctx old r 0)
    (fun r g placed => placed.row) start
  exact placed.before r c (.inl r.isLt)

end InterPlan

namespace Grid

variable {rows cols : Nat} (g : Grid rows cols) (r : Fin rows) (c : Fin cols)

def vectors : Squares rows cols 4 MotionVector := Macroblock.lattice fun r c => (g.get r c).vectors

theorem leftOf_vectors (k : Fin 16) :
    Macroblock.leftOf (g.left r c).vectors (g.get r c).vectors k =
      g.vectors.left .zero (4 * r + k / 4) (4 * c + k % 4) := by
  apply Macroblock.leftOf_lattice fun r c => (g.get r c).vectors
  unfold left
  split <;> rfl

theorem aboveOf_vectors (k : Fin 16) :
    Macroblock.aboveOf (g.above r c).vectors (g.get r c).vectors k =
      g.vectors.above .zero (4 * r + k / 4) (4 * c + k % 4) := by
  apply Macroblock.aboveOf_lattice fun r c => (g.get r c).vectors
  unfold above
  split <;> rfl

/-- A macroblock is as planned. Its vectors are what the plan makes of the candidates around it and
    of the sub-blocks to the left and above, where outside of the picture nothing moves. -/
structure Realises (ctx : ModeContext) (old : Nat) (plan : MacroblockPlan) : Prop where
  macroblock :
    g.get r c = plan.macroblock ctx old (.ofPosition r c rows cols) (g.get r c).vectors
  vector : ∀ k, (g.get r c).vectors.get k =
    plan.prediction.vectorAt (.ofPosition r c rows cols)
      (fun reference => .search ctx.header.signBias reference (Candidates.neighbours g r c))
      (fun k => g.vectors.left .zero (4 * r + k / 4) (4 * c + k % 4))
      (fun k => g.vectors.above .zero (4 * r + k / 4) (4 * c + k % 4)) k

theorem realises_iff (ctx : ModeContext) (old : Nat) (plan : MacroblockPlan) :
    g.Realises r c ctx old plan ↔ g.get r c = (plan.write ctx old (g.surroundings r c)).1 := by
  constructor
  · intro ⟨macroblock, vector⟩
    simp only [← leftOf_vectors, ← aboveOf_vectors] at vector
    rw [plan.prediction.write_unique ctx (g.surroundings r c) vector] at macroblock
    exact macroblock
  · intro here
    have vectors := congrArg Macroblock.vectors here
    rw [MacroblockPlan.write_vectors] at vectors
    constructor
    · rw [vectors]
      exact here
    · intro k
      have own := plan.prediction.write_get ctx (g.surroundings r c) k
      rw [← vectors] at own
      simp only [← leftOf_vectors, ← aboveOf_vectors]
      exact own

end Grid

namespace InterPlan

variable {rows cols : Nat}

/-- In two grids of one plan, every macroblock is the same, since those before it are. -/
theorem realises_unique {plan : InterPlan rows cols} {ctx : ModeContext} {old g h : Grid rows cols}
    (planned : ∀ r c, g.Realises r c ctx (old.get r c).segment (plan r c))
    (alike : ∀ r c, h.Realises r c ctx (old.get r c).segment (plan r c))
    (r : Fin rows) (c : Fin cols) : g.get r c = h.get r c := by
  have same (y : Fin rows) (x : Fin cols) (before : Grid.Before r c y x) :
      g.get y x = h.get y x :=
    realises_unique planned alike y x
  rw [(Grid.realises_iff ..).mp (planned r c), (Grid.realises_iff ..).mp (alike r c),
    surroundings_congr same]
termination_by (r.val, c.val)
decreasing_by
  rcases before with above | ⟨row, left⟩
  · exact .left _ _ above
  · rw [row]
    exact .right _ left

theorem realises_writeGrid (plan : InterPlan rows cols) (ctx : ModeContext)
    (old g : Grid rows cols) :
    (∀ r c, g.Realises r c ctx (old.get r c).segment (plan r c)) ↔
      g = (plan.writeGrid ctx old).1 := by
  have written (r : Fin rows) (c : Fin cols) :
      (plan.writeGrid ctx old).1.Realises r c ctx (old.get r c).segment (plan r c) :=
    (Grid.realises_iff ..).mpr (plan.writeGrid_get ctx old r c)
  constructor
  · exact fun planned => Grid.ext_get (realises_unique planned written)
  · rintro rfl
    exact written

/-- The modes of an inter frame are read as they were planned, whatever frame came before: what is
    read is the one grid in which every macroblock is as planned. Nothing is read beyond them. -/
theorem planned_modes_are_read (plan : InterPlan rows cols) (header : FrameHeader)
    (segmentation : Segmentation) (entropy : EntropyTables) (old : Grid rows cols) :
    let ctx : ModeContext := ⟨false, header, segmentation, entropy⟩
    let done := (old.readModes ctx).read (.ofBytes (plan.write ctx old))
    (∀ g : Grid rows cols,
      (∀ r c, g.Realises r c ctx (old.get r c).segment (plan r c)) ↔ g = done.1) ∧
      done.2.overrun = false := by
  intro ctx
  have inter : ctx.keyframe = false := rfl
  obtain ⟨same, within⟩ := Coded.read_encodeChoices (plan.readModes_path inter old)
  refine ⟨fun g => ?_, within⟩
  unfold write
  rw [same]
  exact plan.realises_writeGrid ctx old g

/-- A macroblock with the longest new vector, and next to it one in two parts, of which the first
    goes on as the macroblock to its left and the second has a vector of its own. -/
def movingPair : InterPlan 1 2 := fun _ c =>
  if c.val = 0 then
    ⟨0, false, .inter .golden (by decide) (.new ⟨1023, -1023, by decide, by decide⟩)⟩
  else
    ⟨0, false, .inter .last (by decide) (.split .leftRight fun part =>
      if part.val = 0 then .left else .new ⟨-8, 3, by decide, by decide⟩)⟩

def movingPairRead : Grid 1 2 × BoolReader :=
  ((Grid.blank 1 2).readModes Grid.evenContext).read
    (.ofBytes (movingPair.write Grid.evenContext (.blank 1 2)))

theorem moving_pair_is_read :
    let g := movingPairRead.1
    (∀ r c, g.Realises r c Grid.evenContext ((Grid.blank 1 2).get r c).segment (movingPair r c)) ∧
      movingPairRead.2.overrun = false ∧ (g.get 0 0).vector = ⟨2046, -2046⟩ ∧
      (g.get 0 1).vectors.get 0 = ⟨2046, -2046⟩ ∧ (g.get 0 1).vectors.get 2 = ⟨-144, 134⟩ := by
  obtain ⟨only, within⟩ :=
    planned_modes_are_read movingPair Grid.evenContext.header .default .default (.blank 1 2)
  exact ⟨(only movingPairRead.1).mpr rfl, within, by decide +kernel, by decide +kernel,
    by decide +kernel⟩

end InterPlan

end Vp8
