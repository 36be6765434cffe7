import Vp8.Macroblock.Modes
import Vp8.Proofs.Entropy.Tree
import Vp8.Proofs.Macroblock.Candidates

/-!
Reading modes and vectors with every access checked: walks through trees, neighbours in the grid and
inside a macroblock, and all tables that a coded value leads into.
-/
namespace Vp8

open Coded

def found (x : Option α) : OptionT Coded α := OptionT.mk (pure x)

theorem found_some (a : α) : found (some a) = pure a := rfl

namespace MotionVector

def readMagnitude? (probs : ComponentProbs) : OptionT Coded Nat := do
  if ← sure (Coded.bool (probs.get 0)) then sure (readLong probs)
  else shortTree.read? (probs.extract 2 9) 0

def readComponent? (probs : ComponentProbs) : OptionT Coded Int := do
  let x ← readMagnitude? probs
  if x = 0 then return 0
  else if ← sure (Coded.bool (probs.get 1)) then return -(x : Int) else return x

def read? (probs : VectorProbs) : OptionT Coded MotionVector := do
  let row ← readComponent? probs.row
  let col ← readComponent? probs.col
  return ofInts (2 * row) (2 * col)

theorem readMagnitude?_eq (probs : ComponentProbs) :
    readMagnitude? probs = sure (readMagnitude probs) := by
  have short (probs : Vector UInt8 7) := shortTree.read?_eq probs 0 (by decide)
  unfold readMagnitude? readMagnitude
  simp only [sure_bind, sure_ite, short]

theorem readComponent?_eq (probs : ComponentProbs) :
    readComponent? probs = sure (readComponent probs) := by
  unfold readComponent? readComponent
  simp only [sure_bind, sure_ite, sure_pure, readMagnitude?_eq]

theorem read?_eq (probs : VectorProbs) : read? probs = sure (read probs) := by
  unfold read? read
  simp only [sure_bind, sure_pure, readComponent?_eq]

end MotionVector

namespace Split

def ofLeaf? : Nat → Option Split
  | 0 => some topBottom
  | 1 => some leftRight
  | 2 => some quarters
  | 3 => some sixteenths
  | _ => none

theorem ofLeaf?_eq {leaf : Nat} (known : leaf < 4) : ofLeaf? leaf = some (ofLeaf leaf) := by
  match leaf, known with
  | 0, _ | 1, _ | 2, _ | 3, _ => rfl

end Split

namespace Macroblock

section Neighbours

variable {α : Type}

def leftOf? (left own : Vector α 16) (k : Nat) : Option α :=
  if k % 4 = 0 then left[k + 3]? else own[k - 1]?

def aboveOf? (above own : Vector α 16) (k : Nat) : Option α :=
  if k < 4 then above[k + 12]? else own[k - 4]?

theorem leftOf?_eq (left own : Vector α 16) (k : Fin 16) :
    leftOf? left own k = some (leftOf left own k) := by
  unfold leftOf? leftOf
  split
  · rw [Vector.getElem?_eq_getElem (by omega)]
  · rw [Vector.getElem?_eq_getElem (by omega)]

theorem aboveOf?_eq (above own : Vector α 16) (k : Fin 16) :
    aboveOf? above own k = some (aboveOf above own k) := by
  unfold aboveOf? aboveOf
  split
  · rw [Vector.getElem?_eq_getElem (by omega)]
  · rw [Vector.getElem?_eq_getElem (by omega)]

end Neighbours

def readSegment? (ctx : ModeContext) (old : Nat) : OptionT Coded Nat :=
  if ctx.segmentation.updateMap then segmentTree.read? ctx.segmentation.treeProbs 0
  else if ctx.keyframe then return 0
  else return old

def readKeyframeSubblocks? (above left : Vector SubblockMode 16) :
    OptionT Coded (Vector SubblockMode 16) :=
  Split.subblocks.foldlM (fun modes (k : Fin 16) => do
    let a ← found (aboveOf? above modes k)
    let l ← found (leftOf? left modes k)
    let probs := (SubblockMode.keyframeProbs.get a.index).get l.index
    let leaf ← SubblockMode.tree.read? probs 0
    return replaceAt modes k (.ofLeaf leaf)) (.replicate 16 .dc)

def readInterSubblocks? : OptionT Coded (Vector SubblockMode 16) :=
  Vector.mapFinIdxM (.replicate 16 ()) fun _ _ _ => do
    return .ofLeaf (← SubblockMode.tree.read? SubblockMode.interProbs 0)

def readIntra? (m : Macroblock) (luma : OptionT Coded Nat)
    (subblocks : OptionT Coded (Vector SubblockMode 16)) (chroma : OptionT Coded Nat) :
    OptionT Coded Macroblock := do
  let mode := Mode.ofIntraLeaf (← luma)
  let subblockModes ←
    if mode = .subblocks then subblocks else pure (.replicate 16 mode.impliedSubblockMode)
  let chromaMode := Mode.ofIntraLeaf (← chroma)
  return { m with mode, subblockModes, chromaMode }

def readKeyframeIntra? (m above left : Macroblock) : OptionT Coded Macroblock :=
  m.readIntra? (Mode.keyframeTree.read? Mode.keyframeProbs 0)
    (readKeyframeSubblocks? above.subblockModes left.subblockModes)
    (Mode.chromaTree.read? Mode.keyframeChromaProbs 0)

def readInterIntra? (m : Macroblock) (entropy : EntropyTables) : OptionT Coded Macroblock :=
  m.readIntra? (Mode.intraTree.read? entropy.lumaModes 0) readInterSubblocks?
    (Mode.chromaTree.read? entropy.chromaModes 0)

def readNewVector? (probs : VectorProbs) (best : MotionVector) : OptionT Coded MotionVector := do
  return (← MotionVector.read? probs).add best

def readPartVector? (probs : VectorProbs) (best left above : MotionVector) :
    OptionT Coded MotionVector := do
  let partProbs := PartVector.probTable.get (PartVector.context left above)
  let leaf ← PartVector.tree.read? partProbs 0
  match PartVector.ofLeaf leaf with
  | .left => return left
  | .above => return above
  | .zero => return .zero
  | .new => readNewVector? probs best

def readParts? (probs : VectorProbs) (best : MotionVector) (split : Split)
    (above left : Vector MotionVector 16) : OptionT Coded (Vector MotionVector 16) :=
  (List.range split.count).foldlM (fun own part => do
    let k := split.first part
    let l ← found (leftOf? left own k)
    let a ← found (aboveOf? above own k)
    let v ← readPartVector? probs best l a
    return fillPart split part v own) (.replicate 16 .zero)

def readSplit? (m : Macroblock) (probs : VectorProbs) (best : MotionVector) (reach : Reach)
    (above left : Macroblock) : OptionT Coded Macroblock := do
  let split ← found (Split.ofLeaf? (← Split.tree.read? Split.probs 0))
  let vectors ← readParts? probs best split above.vectors left.vectors
  return { m with
    split, vectors
    vector := vectors.get 15
    needsClamp := vectors.any reach.outside }

section Grid

variable {rows cols : Nat}

def readInter? (m : Macroblock) (ctx : ModeContext) (g : Grid rows cols) (r c : Nat) :
    OptionT Coded Macroblock := do
  let reference ← sure (readReference ctx.header)
  let reach := Reach.ofPosition r c rows cols
  let neighbours ← found (Candidates.neighbours? g r c)
  let candidates ← found (Candidates.search? ctx.header.signBias reference neighbours)
  let best := reach.clamp candidates.best
  let probs ← found candidates.modeProbs?
  let mode := Mode.ofInterLeaf (← Mode.interTree.read? probs 0)
  let m := { m with reference, mode }
  match mode with
  | .nearest => return m.withVector (reach.clamp candidates.nearest)
  | .near => return m.withVector (reach.clamp candidates.near)
  | .new =>
    let v ← readNewVector? ctx.entropy.vectors best
    return { m.withVector v with needsClamp := reach.outside v }
  | .split =>
    let above ← found (g.above? r c)
    let left ← found (g.left? r c)
    m.readSplit? ctx.entropy.vectors best reach above left
  | _ => return m.withVector .zero

def read? (ctx : ModeContext) (g : Grid rows cols) (r c : Nat) : OptionT Coded Macroblock := do
  let old ← found (g.get? r c)
  let segment ← readSegment? ctx old.segment
  let skipped ← sure (readSkipped ctx)
  let m := { Macroblock.default with segment, skipped }
  if ctx.keyframe then
    let above ← found (g.above? r c)
    let left ← found (g.left? r c)
    m.readKeyframeIntra? above left
  else if ← sure (Coded.bool ctx.header.intraProb) then m.readInter? ctx g r c
  else m.readInterIntra? ctx.entropy

end Grid

end Macroblock

namespace Grid

variable {rows cols : Nat}

def readRow? (ctx : ModeContext) (g : Grid rows cols) (r : Fin rows) :
    OptionT Coded (Grid rows cols) :=
  (List.finRange cols).foldlM (fun g (c : Fin cols) => do
    let m ← Macroblock.read? ctx g r c
    found (g.set? r c m)) g

def readModes? (ctx : ModeContext) (g : Grid rows cols) : OptionT Coded (Grid rows cols) :=
  (List.finRange rows).foldlM (readRow? ctx) g

end Grid

namespace Macroblock

theorem readSegment?_eq (ctx : ModeContext) (old : Nat) :
    readSegment? ctx old = sure (readSegment ctx old) := by
  unfold readSegment? readSegment
  rw [segmentTree.read?_eq _ 0 (by decide), sure_ite, sure_ite]
  rfl

theorem readKeyframeSubblocks?_eq (above left : Vector SubblockMode 16) :
    readKeyframeSubblocks? above left = sure (readKeyframeSubblocks above left) := by
  have tree (probs : Vector UInt8 9) := SubblockMode.tree.read?_eq probs 0 (by decide)
  apply foldlM_sure
  intro modes k
  simp only [aboveOf?_eq, leftOf?_eq, found_some, pure_bind, sure_bind, sure_pure, tree]

theorem readInterSubblocks?_eq : readInterSubblocks? = sure readInterSubblocks := by
  apply readEach_sure
  intro i a inside
  rw [SubblockMode.tree.read?_eq _ 0 (by decide), sure_bind]
  rfl

theorem readIntra?_eq (m : Macroblock) (luma : Coded Nat)
    (subblocks : Coded (Vector SubblockMode 16)) (chroma : Coded Nat) :
    m.readIntra? (sure luma) (sure subblocks) (sure chroma) =
      sure (m.readIntra luma subblocks chroma) := by
  unfold readIntra? readIntra
  simp only [sure_bind, sure_ite, sure_pure]

theorem readKeyframeIntra?_eq (m above left : Macroblock) :
    m.readKeyframeIntra? above left = sure (m.readKeyframeIntra above left) := by
  unfold readKeyframeIntra?
  rw [Mode.keyframeTree.read?_eq _ 0 (by decide), readKeyframeSubblocks?_eq,
    Mode.chromaTree.read?_eq _ 0 (by decide), readIntra?_eq]
  rfl

theorem readInterIntra?_eq (m : Macroblock) (entropy : EntropyTables) :
    m.readInterIntra? entropy = sure (m.readInterIntra entropy) := by
  unfold readInterIntra?
  rw [Mode.intraTree.read?_eq _ 0 (by decide), readInterSubblocks?_eq,
    Mode.chromaTree.read?_eq _ 0 (by decide), readIntra?_eq]
  rfl

theorem readNewVector?_eq (probs : VectorProbs) (best : MotionVector) :
    readNewVector? probs best = sure (readNewVector probs best) := by
  unfold readNewVector? readNewVector
  simp only [sure_bind, sure_pure, MotionVector.read?_eq]

theorem readPartVector?_eq (probs : VectorProbs) (best left above : MotionVector) :
    readPartVector? probs best left above = sure (readPartVector probs best left above) := by
  unfold readPartVector? readPartVector
  dsimp only
  rw [PartVector.tree.read?_eq _ 0 (by decide), sure_bind]
  congr 1
  funext leaf
  cases PartVector.ofLeaf leaf with
  | left | above | zero => rfl
  | new => exact readNewVector?_eq probs best

theorem readParts?_eq (probs : VectorProbs) (best : MotionVector) (split : Split)
    (above left : Vector MotionVector 16) :
    readParts? probs best split above left = sure (readParts probs best split above left) := by
  apply foldlM_sure
  intro own part
  simp only [aboveOf?_eq, leftOf?_eq, found_some, pure_bind, sure_bind, sure_pure,
    readPartVector?_eq]

theorem readSplit?_eq (m : Macroblock) (probs : VectorProbs) (best : MotionVector) (reach : Reach)
    (above left : Macroblock) :
    m.readSplit? probs best reach above left = sure (m.readSplit probs best reach above left) := by
  have leaves : (Split.tree.read Split.probs 0 (by decide)).Yields (· < 4) :=
    CodeTree.readWithin_yields (by decide) (by decide) _ _ _
  unfold readSplit? readSplit
  rw [Split.tree.read?_eq _ 0 (by decide)]
  apply leaves.bind_sure
  intro leaf known
  rw [Split.ofLeaf?_eq known, found_some, pure_bind, readParts?_eq]
  dsimp only
  rw [sure_bind]
  rfl

variable {rows cols : Nat}

theorem readInter?_eq (m : Macroblock) (ctx : ModeContext) (g : Grid rows cols) (r : Fin rows)
    (c : Fin cols) : m.readInter? ctx g r c = sure (m.readInter ctx g r c) := by
  unfold readInter? readInter
  rw [sure_bind]
  congr 1
  funext reference
  have few : (Candidates.neighbours g r c).length ≤ 3 := Nat.le_refl 3
  have light : Candidates.weightOf (Candidates.neighbours g r c) ≤ 5 := Nat.le_refl 5
  rw [Candidates.neighbours?_eq, found_some, pure_bind, Candidates.search?_eq few, found_some,
    pure_bind]
  dsimp only
  rw [Candidates.modeProbs?_eq light, found_some, pure_bind,
    Mode.interTree.read?_eq _ 0 (by decide), sure_bind]
  congr 1
  funext leaf
  cases Mode.ofInterLeaf leaf with
  | new =>
    dsimp only
    rw [readNewVector?_eq, sure_bind]
    rfl
  | split =>
    dsimp only
    rw [g.above?_eq, g.left?_eq, found_some, found_some, pure_bind, pure_bind, readSplit?_eq]
  | _ => rfl

theorem read?_eq (ctx : ModeContext) (g : Grid rows cols) (r : Fin rows) (c : Fin cols) :
    read? ctx g r c = sure (read ctx g r c) := by
  unfold read? read
  simp only [g.get?_eq, g.above?_eq, g.left?_eq, found_some, pure_bind, sure_bind, sure_ite,
    readSegment?_eq, readKeyframeIntra?_eq, readInter?_eq, readInterIntra?_eq]

end Macroblock

namespace Grid

variable {rows cols : Nat}

theorem readModes?_eq (ctx : ModeContext) (g : Grid rows cols) :
    g.readModes? ctx = sure (g.readModes ctx) := by
  apply foldlM_sure
  intro g r
  apply foldlM_sure
  intro g c
  simp only [Macroblock.read?_eq, g.set?_eq, found_some, sure_bind, sure_pure]

end Grid

end Vp8
