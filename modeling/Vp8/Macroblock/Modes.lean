import Vp8.Macroblock.Candidates
import Vp8.Macroblock.Reach

/-!
How the first partition codes the modes and vectors of all macroblocks, in raster order and before
any residual.
-/
namespace Vp8

structure ModeContext where
  keyframe : Bool
  header : FrameHeader
  segmentation : Segmentation
  entropy : EntropyTables

namespace Macroblock

def segmentTree : CodeTree := ⟨#[2, 4, 0, -1, -2, -3]⟩

/-- Without a coded map, keyframes start from segment 0 and other frames keep what was there. -/
def readSegment (ctx : ModeContext) (old : Nat) : Coded Nat :=
  if ctx.segmentation.updateMap then segmentTree.read ctx.segmentation.treeProbs 0 (by decide)
  else if ctx.keyframe then return 0
  else return old

def readSkipped (ctx : ModeContext) : Coded Bool :=
  match ctx.header.skipProb with
  | none => return false
  | some prob => Coded.bool prob

def leftOf (left own : Vector α 16) (k : Fin 16) : α :=
  if h : k.val % 4 = 0 then left[k.val + 3] else own[k.val - 1]

def aboveOf (above own : Vector α 16) (k : Fin 16) : α :=
  if h : k.val < 4 then above[k.val + 12] else own[k.val - 4]

def readKeyframeSubblocks (above left : Vector SubblockMode 16) :
    Coded (Vector SubblockMode 16) :=
  Split.subblocks.foldlM (fun modes k => do
    let probs :=
      (SubblockMode.keyframeProbs.get (aboveOf above modes k).index).get (leftOf left modes k).index
    let leaf ← SubblockMode.tree.read probs 0 (by decide)
    return replaceAt modes k (.ofLeaf leaf)) (.replicate 16 .dc)

def readInterSubblocks : Coded (Vector SubblockMode 16) :=
  readEach (.replicate 16 ()) fun _ _ => do
    return .ofLeaf (← SubblockMode.tree.read SubblockMode.interProbs 0 (by decide))

def readIntra (m : Macroblock) (luma : Coded Nat) (subblocks : Coded (Vector SubblockMode 16))
    (chroma : Coded Nat) : Coded Macroblock := do
  let mode := Mode.ofIntraLeaf (← luma)
  let subblockModes ←
    if mode = .subblocks then subblocks else pure (.replicate 16 mode.impliedSubblockMode)
  let chromaMode := Mode.ofIntraLeaf (← chroma)
  return { m with mode, subblockModes, chromaMode }

def readKeyframeIntra (m above left : Macroblock) : Coded Macroblock :=
  m.readIntra (Mode.keyframeTree.read Mode.keyframeProbs 0 (by decide))
    (readKeyframeSubblocks above.subblockModes left.subblockModes)
    (Mode.chromaTree.read Mode.keyframeChromaProbs 0 (by decide))

def readInterIntra (m : Macroblock) (entropy : EntropyTables) : Coded Macroblock :=
  m.readIntra (Mode.intraTree.read entropy.lumaModes 0 (by decide)) readInterSubblocks
    (Mode.chromaTree.read entropy.chromaModes 0 (by decide))

def readReference (header : FrameHeader) : Coded Reference := do
  if ← Coded.bool header.lastProb then
    if ← Coded.bool header.goldenProb then return .altref else return .golden
  else return .last

def readNewVector (probs : VectorProbs) (best : MotionVector) : Coded MotionVector := do
  return (← MotionVector.read probs).add best

def readPartVector (probs : VectorProbs) (best left above : MotionVector) :
    Coded MotionVector := do
  let partProbs := PartVector.probTable.get (PartVector.context left above)
  let leaf ← PartVector.tree.read partProbs 0 (by decide)
  match PartVector.ofLeaf leaf with
  | .left => return left
  | .above => return above
  | .zero => return .zero
  | .new => readNewVector probs best

def fillPart (split : Split) (part : Nat) (v : MotionVector) (own : Vector MotionVector 16) :
    Vector MotionVector 16 :=
  own.mapFinIdx fun k w h => if split.parts[k] = part then v else w

def readParts (probs : VectorProbs) (best : MotionVector) (split : Split)
    (above left : Vector MotionVector 16) : Coded (Vector MotionVector 16) :=
  (List.range split.count).foldlM (fun own part => do
    let k := split.first part
    let v ← readPartVector probs best (leftOf left own k) (aboveOf above own k)
    return fillPart split part v own) (.replicate 16 .zero)

def readSplit (m : Macroblock) (probs : VectorProbs) (best : MotionVector) (reach : Reach)
    (above left : Macroblock) : Coded Macroblock := do
  let split := Split.ofLeaf (← Split.tree.read Split.probs 0 (by decide))
  let vectors ← readParts probs best split above.vectors left.vectors
  return { m with
    split, vectors
    vector := vectors.get 15
    needsClamp := vectors.any reach.outside }

def withVector (m : Macroblock) (v : MotionVector) : Macroblock :=
  { m with vector := v, vectors := .replicate 16 v }

def readInter (m : Macroblock) (ctx : ModeContext) (g : Grid rows cols) (r : Fin rows)
    (c : Fin cols) : Coded Macroblock := do
  let reference ← readReference ctx.header
  let reach := Reach.ofPosition r c rows cols
  let candidates := Candidates.search ctx.header.signBias reference (Candidates.neighbours g r c)
  let best := reach.clamp candidates.best
  let mode := Mode.ofInterLeaf (← Mode.interTree.read candidates.modeProbs 0 (by decide))
  let m := { m with reference, mode }
  match mode with
  | .nearest => return m.withVector (reach.clamp candidates.nearest)
  | .near => return m.withVector (reach.clamp candidates.near)
  | .new =>
    let v ← readNewVector ctx.entropy.vectors best
    return { m.withVector v with needsClamp := reach.outside v }
  | .split => m.readSplit ctx.entropy.vectors best reach (g.above r c) (g.left r c)
  | _ => return m.withVector .zero

/-- The macroblock at a position, after those before it in raster order. -/
def read (ctx : ModeContext) (g : Grid rows cols) (r : Fin rows) (c : Fin cols) :
    Coded Macroblock := do
  let segment ← readSegment ctx (g.get r c).segment
  let skipped ← readSkipped ctx
  let m := { Macroblock.default with segment, skipped }
  if ctx.keyframe then m.readKeyframeIntra (g.above r c) (g.left r c)
  else if ← Coded.bool ctx.header.intraProb then m.readInter ctx g r c
  else m.readInterIntra ctx.entropy

end Macroblock

namespace Grid

def readRow (ctx : ModeContext) (g : Grid rows cols) (r : Fin rows) : Coded (Grid rows cols) :=
  (List.finRange cols).foldlM (fun g c => do return g.set r c (← Macroblock.read ctx g r c)) g

def readModes (ctx : ModeContext) (g : Grid rows cols) : Coded (Grid rows cols) :=
  (List.finRange rows).foldlM (readRow ctx) g

end Grid

end Vp8
