import Vp8.Proofs.Entropy.RoundTrip
import Vp8.Proofs.Lattice
import Vp8.Proofs.Macroblock.Modes
import Vp8.Residual.Block

/-!
Keyframes as they are planned. A plan says how each macroblock is to be predicted, and with the
sub-blocks of the whole picture as one lattice it says which neighbours the mode of a sub-block is
coded against. The modes of a plan, once written, are read back over any grid.
-/
namespace Vp8

inductive WholeMode where
  | dc
  | vertical
  | horizontal
  | trueMotion
  deriving DecidableEq, Repr

namespace WholeMode

def leaf : WholeMode → Nat
  | dc => 0
  | vertical => 1
  | horizontal => 2
  | trueMotion => 3

def mode : WholeMode → Mode
  | dc => .dc
  | vertical => .vertical
  | horizontal => .horizontal
  | trueMotion => .trueMotion

theorem ofIntraLeaf_leaf (m : WholeMode) : Mode.ofIntraLeaf m.leaf = m.mode := by
  cases m <;> rfl

theorem chromaTree_holds (m : WholeMode) : (Mode.chromaTree.path? m.leaf 0).isSome := by
  cases m <;> rfl

end WholeMode

inductive IntraLuma where
  | whole (mode : WholeMode)
  | subblocks (modes : Vector SubblockMode 16)
  deriving DecidableEq, Repr

namespace IntraLuma

def leaf : IntraLuma → Nat
  | whole mode => mode.leaf
  | subblocks _ => 4

def mode : IntraLuma → Mode
  | whole mode => mode.mode
  | subblocks _ => .subblocks

def modes : IntraLuma → Vector SubblockMode 16
  | whole mode => .replicate 16 mode.mode.impliedSubblockMode
  | subblocks modes => modes

def subblockChoices (luma : IntraLuma) (each : Fin 16 → List Choice) : List Choice :=
  match luma with
  | whole _ => []
  | subblocks _ => (List.finRange 16).flatMap each

theorem ofIntraLeaf_leaf (luma : IntraLuma) : Mode.ofIntraLeaf luma.leaf = luma.mode := by
  cases luma with
  | whole mode => exact mode.ofIntraLeaf_leaf
  | subblocks modes => rfl

theorem keyframeTree_holds (luma : IntraLuma) : (Mode.keyframeTree.path? luma.leaf 0).isSome := by
  rcases luma with (_ | _ | _ | _) | modes <;> rfl

end IntraLuma

namespace SubblockMode

theorem ofLeaf_index (m : SubblockMode) : ofLeaf m.index = m := by cases m <;> rfl

theorem tree_holds (m : SubblockMode) : (tree.path? m.index 0).isSome := by cases m <;> rfl

end SubblockMode

namespace Macroblock

section Lattice

variable {rows cols : Nat} {α : Type}

def lattice (f : Fin rows → Fin cols → Vector α 16) : Squares rows cols 4 α :=
  fun r c y x => (f r c).get (Block.position y x)

theorem lattice_eq (f : Fin rows → Fin cols → Vector α 16) (r : Fin rows) (c : Fin cols)
    {y x : Fin 4} {k : Nat} (inside : k < 16) (place : 4 * y.val + x = k) :
    lattice f r c y x = (f r c)[k] := by
  subst place
  rfl

theorem lattice_block (f : Fin rows → Fin cols → Vector α 16) (outside : α) (r : Fin rows)
    (c : Fin cols) (k : Fin 16) :
    (lattice f).block outside (4 * r + k / 4) (4 * c + k % 4) = (f r c).get k := by
  have place := (lattice f).block_eq outside r c ⟨k / 4, by omega⟩ ⟨k % 4, by omega⟩
  exact place.trans (lattice_eq f r c k.isLt (Nat.div_add_mod k 4))

/-- To the left of the first column of sub-blocks lies the last one of the macroblock there. -/
theorem leftOf_lattice (f : Fin rows → Fin cols → Vector α 16) {outside : α} {r : Fin rows}
    {c : Fin cols} {left : Vector α 16} (k : Fin 16)
    (next : left = if 0 < c.val then f r (prior c) else .replicate 16 outside) :
    leftOf left (f r c) k = (lattice f).left outside (4 * r + k / 4) (4 * c + k % 4) := by
  have place := (lattice f).left_eq outside r c ⟨k / 4, by omega⟩ ⟨k % 4, by omega⟩
  rw [place, next]
  unfold leftOf
  by_cases first : k.val % 4 = 0
  · rw [dif_pos first, if_neg (show ¬ 0 < k.val % 4 by omega)]
    by_cases later : 0 < c.val
    · rw [if_pos later]
      simp only [if_pos later]
      exact (lattice_eq f r (prior c) _ (by simp only [final]; omega)).symm
    · rw [if_neg later]
      simp only [if_neg later]
      exact Vector.getElem_replicate _
  · rw [dif_neg first, if_pos (show 0 < k.val % 4 by omega)]
    exact (lattice_eq f r c _ (by simp only [prior]; omega)).symm

theorem aboveOf_lattice (f : Fin rows → Fin cols → Vector α 16) {outside : α} {r : Fin rows}
    {c : Fin cols} {above : Vector α 16} (k : Fin 16)
    (next : above = if 0 < r.val then f (prior r) c else .replicate 16 outside) :
    aboveOf above (f r c) k = (lattice f).above outside (4 * r + k / 4) (4 * c + k % 4) := by
  have place := (lattice f).above_eq outside r c ⟨k / 4, by omega⟩ ⟨k % 4, by omega⟩
  rw [place, next]
  unfold aboveOf
  by_cases first : k.val < 4
  · rw [dif_pos first, if_neg (show ¬ 0 < k.val / 4 by omega)]
    by_cases later : 0 < r.val
    · rw [if_pos later]
      simp only [if_pos later]
      exact (lattice_eq f (prior r) c _ (by simp only [final]; omega)).symm
    · rw [if_neg later]
      simp only [if_neg later]
      exact Vector.getElem_replicate _
  · rw [dif_neg first, if_pos (show 0 < k.val / 4 by omega)]
    exact (lattice_eq f r c _ (by simp only [prior]; omega)).symm

end Lattice

def segmentChoices (ctx : ModeContext) (segment : Fin 4) : List Choice :=
  if ctx.segmentation.updateMap then
    segmentTree.choices ctx.segmentation.treeProbs.toArray segment 0
  else []

def skippedChoices (ctx : ModeContext) (skipped : Bool) : List Choice :=
  match ctx.header.skipProb with
  | none => []
  | some prob => [⟨prob, skipped⟩]

end Macroblock

structure IntraPlan where
  segment : Fin 4
  skipped : Bool
  luma : IntraLuma
  chroma : WholeMode
  deriving DecidableEq, Repr

namespace IntraPlan

variable (plan : IntraPlan) (ctx : ModeContext)

/-- The macroblock of a plan. What the frame does not code is as if it had not been chosen. -/
def macroblock : Macroblock where
  mode := plan.luma.mode
  chromaMode := plan.chroma.mode
  reference := .current
  vector := .zero
  segment := if ctx.segmentation.updateMap then plan.segment else 0
  skipped := ctx.header.skipProb.isSome && plan.skipped
  needsClamp := false
  split := .topBottom
  subblockModes := plan.luma.modes
  vectors := .replicate 16 .zero

def lumaChoices : List Choice :=
  Mode.keyframeTree.choices Mode.keyframeProbs.toArray plan.luma.leaf 0

def chromaChoices : List Choice :=
  Mode.chromaTree.choices Mode.keyframeChromaProbs.toArray plan.chroma.leaf 0

end IntraPlan

abbrev KeyframePlan (rows cols : Nat) := Fin rows → Fin cols → IntraPlan

namespace KeyframePlan

variable {rows cols : Nat}

def modeAt (plan : KeyframePlan rows cols) (y x : Nat) : SubblockMode :=
  if h : y < 4 * rows ∧ x < 4 * cols then
    (plan ⟨y / 4, by omega⟩ ⟨x / 4, by omega⟩).luma.modes.get ⟨4 * (y % 4) + x % 4, by omega⟩
  else .dc

def modeAbove (plan : KeyframePlan rows cols) (y x : Nat) : SubblockMode :=
  if y = 0 then .dc else plan.modeAt (y - 1) x

def modeLeft (plan : KeyframePlan rows cols) (y x : Nat) : SubblockMode :=
  if x = 0 then .dc else plan.modeAt y (x - 1)

/-- The mode of a sub-block, coded against its neighbours above and to the left. -/
def modeChoices (plan : KeyframePlan rows cols) (y x : Nat) : List Choice :=
  let probs :=
    (SubblockMode.keyframeProbs.get (plan.modeAbove y x).index).get (plan.modeLeft y x).index
  SubblockMode.tree.choices probs.toArray (plan.modeAt y x).index 0

def macroblockChoices (plan : KeyframePlan rows cols) (ctx : ModeContext) (r : Fin rows)
    (c : Fin cols) : List Choice :=
  let m := plan r c
  let each (k : Fin 16) := plan.modeChoices (4 * r + k / 4) (4 * c + k % 4)
  Macroblock.segmentChoices ctx m.segment ++ (Macroblock.skippedChoices ctx m.skipped ++
    (m.lumaChoices ++ (m.luma.subblockChoices each ++ m.chromaChoices)))

def write (plan : KeyframePlan rows cols) (ctx : ModeContext) : ByteArray :=
  encodeChoices ((List.finRange rows).flatMap fun r =>
    (List.finRange cols).flatMap fun c => plan.macroblockChoices ctx r c)

section Lattice

variable {plan : KeyframePlan rows cols} {ctx : ModeContext} {g : Grid rows cols} {r : Fin rows}
  {c : Fin cols}

theorem modeAt_eq_block (plan : KeyframePlan rows cols) (y x : Nat) :
    plan.modeAt y x = (Macroblock.lattice fun r c => (plan r c).luma.modes).block .dc y x := rfl

theorem modeAt_eq (plan : KeyframePlan rows cols) (r : Fin rows) (c : Fin cols) (k : Fin 16) :
    plan.modeAt (4 * r + k / 4) (4 * c + k % 4) = (plan r c).luma.modes.get k := by
  rw [modeAt_eq_block, Macroblock.lattice_block]

abbrev Done (plan : KeyframePlan rows cols) (ctx : ModeContext) :
    Nat → Nat → Grid rows cols → Prop :=
  Grid.AllBefore fun y x m => m = (plan y x).macroblock ctx

theorem modeAbove_eq (done : plan.Done ctx r c g) (k : Fin 16) :
    Macroblock.aboveOf (g.above r c).subblockModes (plan r c).luma.modes k =
      plan.modeAbove (4 * r + k / 4) (4 * c + k % 4) := by
  rw [Macroblock.aboveOf_lattice fun r c => (plan r c).luma.modes]
  · rfl
  · unfold Grid.above
    split
    · exact congrArg Macroblock.subblockModes (done _ _ (.inl (by dsimp only; omega)))
    · rfl

theorem modeLeft_eq (done : plan.Done ctx r c g) (k : Fin 16) :
    Macroblock.leftOf (g.left r c).subblockModes (plan r c).luma.modes k =
      plan.modeLeft (4 * r + k / 4) (4 * c + k % 4) := by
  rw [Macroblock.leftOf_lattice fun r c => (plan r c).luma.modes]
  · rfl
  · unfold Grid.left
    split
    · exact congrArg Macroblock.subblockModes (done _ _ (.inr ⟨rfl, by dsimp only; omega⟩))
    · rfl

end Lattice

end KeyframePlan

namespace Macroblock

section Subblocks

variable {α : Type} {own modes : Vector α 16} {k : Fin 16}

def Known (modes : Vector α 16) (k : Nat) (own : Vector α 16) : Prop :=
  ∀ j : Fin 16, j.val < k → own.get j = modes.get j

theorem Known.aboveOf (known : Known modes k own) (above : Vector α 16) :
    aboveOf above own k = aboveOf above modes k := by
  unfold Macroblock.aboveOf
  split
  · rfl
  · exact known ⟨k - 4, by omega⟩ (by dsimp only; omega)

theorem Known.leftOf (known : Known modes k own) (left : Vector α 16) :
    leftOf left own k = leftOf left modes k := by
  unfold Macroblock.leftOf
  split
  · rfl
  · exact known ⟨k - 1, by omega⟩ (by dsimp only; omega)

theorem Known.next (known : Known modes k own) {a : α} (here : a = modes.get k) :
    Known modes (k + 1) (replaceAt own k a) := by
  intro j before
  rw [get_replaceAt]
  split
  · rename_i same
    rw [here, same]
  · exact known j (by omega)

end Subblocks

def subblockChoices (above left modes : Vector SubblockMode 16) (k : Fin 16) : List Choice :=
  let probs :=
    (SubblockMode.keyframeProbs.get (aboveOf above modes k).index).get (leftOf left modes k).index
  SubblockMode.tree.choices probs.toArray (modes.get k).index 0

theorem readKeyframeSubblocks_path (above left modes : Vector SubblockMode 16) :
    (readKeyframeSubblocks above left).Path
      ((List.finRange 16).flatMap (subblockChoices above left modes)) modes := by
  have walk : ∃ own, (readKeyframeSubblocks above left).Path
      ((List.finRange 16).flatMap (subblockChoices above left modes)) own ∧ Known modes 16 own := by
    unfold readKeyframeSubblocks Split.subblocks
    apply Coded.Path.foldlM (Known modes)
    · -- both neighbours of a sub-block have been read before it
      intro k own known
      rw [known.aboveOf, known.leftOf]
      refine ⟨_, Coded.Path.map ?_ _, known.next (SubblockMode.ofLeaf_index _)⟩
      exact CodeTree.read_path (modes.get k).tree_holds _ _
    · exact nofun
  obtain ⟨own, path, known⟩ := walk
  rwa [ext_get fun j => known j j.isLt] at path

theorem readSegment_path (ctx : ModeContext) (segment : Fin 4) (old : Nat) :
    (readSegment ctx old).Path (segmentChoices ctx segment)
      (if ctx.segmentation.updateMap then segment else if ctx.keyframe then 0 else old) := by
  have held : ∀ segment : Fin 4, (segmentTree.path? segment 0).isSome := by decide
  unfold readSegment segmentChoices
  split
  · exact CodeTree.read_path (held segment) _ _
  · split
    · exact .value 0
    · exact .value old

theorem readSkipped_path (ctx : ModeContext) (skipped : Bool) :
    (readSkipped ctx).Path (skippedChoices ctx skipped)
      (ctx.header.skipProb.isSome && skipped) := by
  unfold readSkipped skippedChoices
  cases ctx.header.skipProb with
  | none => exact .value false
  | some prob => exact .choice skipped (.value _)

theorem readIntra_path (m : Macroblock) (luma : IntraLuma) (chroma : WholeMode)
    {lumaTree chromaTree : Coded Nat} {subblocks : Coded (Vector SubblockMode 16)}
    {lumaChoices chromaChoices : List Choice} {each : Fin 16 → List Choice}
    (lumaPath : lumaTree.Path lumaChoices luma.leaf)
    (subblockPath : subblocks.Path ((List.finRange 16).flatMap each) luma.modes)
    (chromaPath : chromaTree.Path chromaChoices chroma.leaf) :
    (m.readIntra lumaTree subblocks chromaTree).Path
      (lumaChoices ++ (luma.subblockChoices each ++ chromaChoices))
      { m with mode := luma.mode, subblockModes := luma.modes, chromaMode := chroma.mode } := by
  unfold readIntra
  apply lumaPath.bind
  dsimp only
  rw [luma.ofIntraLeaf_leaf]
  have last := chromaPath.map fun leaf =>
    { m with
      mode := luma.mode, subblockModes := luma.modes, chromaMode := Mode.ofIntraLeaf leaf }
  rw [chroma.ofIntraLeaf_leaf] at last
  cases luma with
  | whole mode =>
    rw [if_neg (by cases mode <;> decide)]
    exact last
  | subblocks modes =>
    have parted : (IntraLuma.subblocks modes).mode = .subblocks := rfl
    rw [if_pos parted]
    exact subblockPath.bind last

end Macroblock

namespace KeyframePlan

variable {rows cols : Nat} {plan : KeyframePlan rows cols} {ctx : ModeContext}

theorem subblockChoices_eq {g : Grid rows cols} {r : Fin rows} {c : Fin cols}
    (done : plan.Done ctx r c g) :
    Macroblock.subblockChoices (g.above r c).subblockModes (g.left r c).subblockModes
        (plan r c).luma.modes =
      fun k : Fin 16 => plan.modeChoices (4 * r + k / 4) (4 * c + k % 4) := by
  funext k
  unfold Macroblock.subblockChoices modeChoices
  rw [modeAbove_eq done, modeLeft_eq done, plan.modeAt_eq]

theorem read_path (keyframe : ctx.keyframe = true) {g : Grid rows cols} {r : Fin rows}
    {c : Fin cols} (done : plan.Done ctx r c g) :
    (Macroblock.read ctx g r c).Path (plan.macroblockChoices ctx r c)
      ((plan r c).macroblock ctx) := by
  unfold Macroblock.read macroblockChoices
  apply (Macroblock.readSegment_path ctx (plan r c).segment _).bind
  apply (Macroblock.readSkipped_path ctx (plan r c).skipped).bind
  dsimp only
  rw [if_pos keyframe, if_pos keyframe, ← subblockChoices_eq done]
  unfold Macroblock.readKeyframeIntra
  apply Macroblock.readIntra_path
  · exact CodeTree.read_path (plan r c).luma.keyframeTree_holds _ _
  · exact Macroblock.readKeyframeSubblocks_path _ _ _
  · exact CodeTree.read_path (plan r c).chroma.chromaTree_holds _ _

theorem readModes_path (keyframe : ctx.keyframe = true) (plan : KeyframePlan rows cols)
    (g : Grid rows cols) :
    ∃ done : Grid rows cols, (g.readModes ctx).Path
      ((List.finRange rows).flatMap fun r =>
        (List.finRange cols).flatMap fun c => plan.macroblockChoices ctx r c) done ∧
      plan.Done ctx rows 0 done := by
  unfold Grid.readModes
  apply Coded.Path.foldlM fun r => plan.Done ctx r 0
  · intro r g before
    unfold Grid.readRow
    obtain ⟨row, path, whole⟩ := Coded.Path.foldlM (plan.Done ctx r)
      (f := fun g c => do return g.set r c (← Macroblock.read ctx g r c))
      (fun c g before => ⟨_, (read_path keyframe before).map _, before.set rfl⟩) before
    exact ⟨row, path, whole.next⟩
  · exact .start _ g

/-- The modes of a keyframe are read as they were planned, whatever the grid held before, and
    nothing is read beyond them. -/
theorem written_modes_are_read (plan : KeyframePlan rows cols) (header : FrameHeader)
    (segmentation : Segmentation) (entropy : EntropyTables) (g : Grid rows cols) :
    let ctx : ModeContext := ⟨true, header, segmentation, entropy⟩
    let done := (g.readModes ctx).read (.ofBytes (plan.write ctx))
    (∀ r c, done.1.get r c = (plan r c).macroblock ctx) ∧ done.2.overrun = false := by
  intro ctx
  have keyframe : ctx.keyframe = true := rfl
  obtain ⟨grid, path, done⟩ := readModes_path keyframe plan g
  obtain ⟨same, within⟩ := Coded.read_encodeChoices path
  refine ⟨fun r c => ?_, within⟩
  unfold write
  rw [same]
  exact done r c (.inl r.isLt)

end KeyframePlan

end Vp8
