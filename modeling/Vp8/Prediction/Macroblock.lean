import Vp8.Error
import Vp8.Image.Picture
import Vp8.Macroblock.Grid
import Vp8.Macroblock.Reach
import Vp8.Prediction.Intra
import Vp8.Prediction.Motion
import Vp8.Prediction.Subblock
import Vp8.Residual.Block

/-!
Reconstruction of one macroblock in place: its prediction, from what the current picture already
holds or from a reference, and its residual on top.
-/
namespace Vp8

def foldBlocks (n : Nat) (f : α → Fin n → Fin n → α) (a : α) : α :=
  Fin.foldl n (fun a y => Fin.foldl n (fun a x => f a y x) a) a

structure Sources (rows cols : Nat) where
  last : Option (Picture rows cols)
  golden : Option (Picture rows cols)
  altref : Option (Picture rows cols)
  interpolation : Interpolation
  fullPixel : Bool

def Sources.picture? (s : Sources rows cols) : Reference → Option (Picture rows cols)
  | .current => none
  | .last => s.last
  | .golden => s.golden
  | .altref => s.altref

def Sources.find (s : Sources rows cols) (reference : Reference) :
    Except DecodeError (Option (Picture rows cols)) :=
  if reference = .current then .ok none
  else match s.picture? reference with
    | none => .error (.corruptFrame .missingReference)
    | some picture => .ok (some picture)

def Block.addTo (b : Block) (r c : Fin 4) (pixel : UInt8) : UInt8 :=
  clampByte (pixel.toNat + b.get (Block.position r c))

namespace Plane

variable {width height border : Nat}

def addBlock (p : Plane width height border) (x y : Int) (b : Block)
    (inside : Covers width height border x y 4 4) : Plane width height border :=
  p.update x y 4 4 inside b.addTo

def addBlocks (p : Plane width height border) (x y : Int) (residual : BlockGrid n)
    (inside : Covers width height border x y (4 * n) (4 * n)) : Plane width height border :=
  foldBlocks n (fun p j i => p.addBlock (x + (4 * i.val : Nat)) (y + (4 * j.val : Nat))
    ((residual.get j).get i) (inside.part i j)) p

def copyMotion (p : Plane width height border) {wide high margin : Nat}
    (reference : Plane wide high margin) (kind : Interpolation) (x y : Int)
    (w h : Nat) (v : MotionVector) (inside : Covers width height border x y w h) :
    Plane width height border :=
  p.store x y (reference.predictMotion kind x y w h v) inside

abbrev LumaFits (rows cols r c : Nat) : Prop :=
  Covers (16 * cols) (16 * rows) 32 (16 * c : Nat) (16 * r : Nat) 16 16

abbrev ChromaFits (rows cols r c : Nat) : Prop :=
  Covers (8 * cols) (8 * rows) 16 (8 * c : Nat) (8 * r : Nat) 8 8

theorem lumaFits (r : Fin rows) (c : Fin cols) : LumaFits rows cols r c :=
  Encloses.covers (by unfold Encloses; omega)

theorem chromaFits (r : Fin rows) (c : Fin cols) : ChromaFits rows cols r c :=
  Encloses.covers (by unfold Encloses; omega)

variable {rows cols r c : Nat}

/-- The row in which a sub-block finds the pixels above to its right. Sub-blocks at the right side
    see the row above the macroblock there. -/
def aboveRightRow (r : Nat) (y x : Fin 4) : Int :=
  if x.val = 3 then (16 * r : Nat) - 1 else (16 * r : Nat) + (4 * y.val : Nat) - 1

theorem LumaFits.readable (fits : LumaFits rows cols r c) (y x : Fin 4) :
    SubblockEdges.Readable (16 * cols) (16 * rows) 32 ((16 * c : Nat) + (4 * x.val : Nat))
      ((16 * r : Nat) + (4 * y.val : Nat)) (aboveRightRow r y x) := by
  have block := Covers.part (n := 4) fits x y
  have grown := Covers.growUp fits (by omega) (by decide)
  refine ⟨block.rowAbove (by omega) (by omega) (by decide),
    block.columnLeft (by omega) (by omega) (by decide), ?_⟩
  unfold aboveRightRow
  split
  · exact (grown.right (k := 4) (by decide) (by decide) (by omega)).sub 0 0 (by omega) (by omega)
      (by omega) (by omega)
  · exact grown.sub (4 * x.val + 4) (4 * y.val) (by omega) (by omega) (by omega) (by omega)

def reconstructSubblock (p : Plane (16 * cols) (16 * rows) 32) (fits : LumaFits rows cols r c)
    (mode : SubblockMode) (residual : Option Block) (y x : Fin 4) :
    Plane (16 * cols) (16 * rows) 32 :=
  let left : Int := (16 * c : Nat) + (4 * x.val : Nat)
  let top : Int := (16 * r : Nat) + (4 * y.val : Nat)
  let edges := SubblockEdges.gather p left top (aboveRightRow r y x) (LumaFits.readable fits y x)
  let p := p.store left top (edges.predict mode) (Covers.part (n := 4) fits x y)
  match residual with
  | none => p
  | some b => p.addBlock left top b (Covers.part (n := 4) fits x y)

def reconstructSubblocks (p : Plane (16 * cols) (16 * rows) 32) (fits : LumaFits rows cols r c)
    (modes : Vector SubblockMode 16) (residual : Option (BlockGrid 4)) :
    Plane (16 * cols) (16 * rows) 32 :=
  foldBlocks 4 (fun p y x => p.reconstructSubblock fits (modes.get (Block.position y x))
    (residual.map fun blocks => (blocks.get y).get x) y x) p

def addLuma (p : Plane (16 * cols) (16 * rows) 32) (fits : LumaFits rows cols r c)
    (residual : BlockGrid 4) : Plane (16 * cols) (16 * rows) 32 :=
  p.addBlocks (16 * c : Nat) (16 * r : Nat) residual fits

def addChroma (p : Plane (8 * cols) (8 * rows) 16) (fits : ChromaFits rows cols r c)
    (residual : BlockGrid 2) : Plane (8 * cols) (8 * rows) 16 :=
  p.addBlocks (8 * c : Nat) (8 * r : Nat) residual fits

def reconstructIntraLuma (p : Plane (16 * cols) (16 * rows) 32) (fits : LumaFits rows cols r c)
    (m : Macroblock) (residual : Option (BlockGrid 4)) : Plane (16 * cols) (16 * rows) 32 :=
  if m.mode = .subblocks then p.reconstructSubblocks fits m.subblockModes residual
  else
    let p := p.predictIntra (16 * c : Nat) (16 * r : Nat) 16
      (Covers.rowAbove fits (by omega) (by omega) (by decide))
      (Covers.columnLeft fits (by omega) (by omega) (by decide)) fits m.mode (0 < r) (0 < c)
    residual.elim p (p.addLuma fits)

def reconstructIntraChroma (p : Plane (8 * cols) (8 * rows) 16) (fits : ChromaFits rows cols r c)
    (m : Macroblock) (residual : Option (BlockGrid 2)) : Plane (8 * cols) (8 * rows) 16 :=
  let p := p.predictIntra (8 * c : Nat) (8 * r : Nat) 8
    (Covers.rowAbove fits (by omega) (by omega) (by decide))
    (Covers.columnLeft fits (by omega) (by omega) (by decide)) fits m.chromaMode (0 < r) (0 < c)
  residual.elim p (p.addChroma fits)

end Plane

namespace Macroblock

def limit (m : Macroblock) (clamp : MotionVector → MotionVector) (v : MotionVector) :
    MotionVector :=
  if m.needsClamp then clamp v else v

def quarterVector (m : Macroblock) (fullPixel : Bool) (y x : Fin 2) : MotionVector :=
  let k := 8 * y.val + 2 * x.val
  .chromaOfSplit fullPixel m.vectors[k] m.vectors[k + 1] m.vectors[k + 4] m.vectors[k + 5]

end Macroblock

namespace Plane

variable {rows cols r c : Nat}

def predictSplitLuma (p reference : Plane (16 * cols) (16 * rows) 32) (kind : Interpolation)
    (reach : Reach) (fits : LumaFits rows cols r c) (m : Macroblock) :
    Plane (16 * cols) (16 * rows) 32 :=
  foldBlocks 4 (fun p y x => p.copyMotion reference kind ((16 * c : Nat) + (4 * x.val : Nat))
    ((16 * r : Nat) + (4 * y.val : Nat)) 4 4
    (m.limit reach.clampToBorder (m.vectors.get (Block.position y x)))
    (Covers.part (n := 4) fits x y)) p

def predictSplitChroma (p reference : Plane (8 * cols) (8 * rows) 16) (kind : Interpolation)
    (fullPixel : Bool) (reach : Reach) (fits : ChromaFits rows cols r c) (m : Macroblock) :
    Plane (8 * cols) (8 * rows) 16 :=
  foldBlocks 2 (fun p y x => p.copyMotion reference kind ((8 * c : Nat) + (4 * x.val : Nat))
    ((8 * r : Nat) + (4 * y.val : Nat)) 4 4
    (m.limit reach.clampChromaToBorder (m.quarterVector fullPixel y x))
    (Covers.part (n := 2) fits x y)) p

end Plane

namespace Picture

variable {rows cols r c : Nat}

abbrev Fits (rows cols r c : Nat) : Prop :=
  Plane.LumaFits rows cols r c ∧ Plane.ChromaFits rows cols r c

def predictWhole (p reference : Picture rows cols) (kind : Interpolation) (fullPixel : Bool)
    (v : MotionVector) (fits : Fits rows cols r c) : Picture rows cols :=
  let chroma := v.chroma fullPixel
  { p with
    luma := p.luma.copyMotion reference.luma kind (16 * c : Nat) (16 * r : Nat) 16 16 v fits.1
    cb := p.cb.copyMotion reference.cb kind (8 * c : Nat) (8 * r : Nat) 8 8 chroma fits.2
    cr := p.cr.copyMotion reference.cr kind (8 * c : Nat) (8 * r : Nat) 8 8 chroma fits.2 }

def predictSplit (p reference : Picture rows cols) (kind : Interpolation) (fullPixel : Bool)
    (reach : Reach) (fits : Fits rows cols r c) (m : Macroblock) : Picture rows cols :=
  { p with
    luma := p.luma.predictSplitLuma reference.luma kind reach fits.1 m
    cb := p.cb.predictSplitChroma reference.cb kind fullPixel reach fits.2 m
    cr := p.cr.predictSplitChroma reference.cr kind fullPixel reach fits.2 m }

def predictInter (p reference : Picture rows cols) (kind : Interpolation) (fullPixel : Bool)
    (fits : Fits rows cols r c) (m : Macroblock) : Picture rows cols :=
  let reach := Reach.ofPosition r c rows cols
  if m.mode = .split then p.predictSplit reference kind fullPixel reach fits m
  else p.predictWhole reference kind fullPixel (m.limit reach.clampToBorder m.vector) fits

def addResidual (p : Picture rows cols) (fits : Fits rows cols r c) (residual : Residual) :
    Picture rows cols :=
  { p with
    luma := p.luma.addLuma fits.1 residual.luma
    cb := p.cb.addChroma fits.2 residual.cb
    cr := p.cr.addChroma fits.2 residual.cr }

def reconstructIntra (p : Picture rows cols) (fits : Fits rows cols r c) (m : Macroblock)
    (residual : Option Residual) : Picture rows cols :=
  { p with
    luma := p.luma.reconstructIntraLuma fits.1 m (residual.map Residual.luma)
    cb := p.cb.reconstructIntraChroma fits.2 m (residual.map Residual.cb)
    cr := p.cr.reconstructIntraChroma fits.2 m (residual.map Residual.cr) }

/-- Reconstruct a macroblock from its reference, or without one from its neighbours. -/
def reconstructFrom (p : Picture rows cols) (s : Sources rows cols)
    (reference : Option (Picture rows cols)) (fits : Fits rows cols r c) (m : Macroblock)
    (residual : Option Residual) : Picture rows cols :=
  match reference with
  | none => p.reconstructIntra fits m residual
  | some reference =>
    let p := p.predictInter reference s.interpolation s.fullPixel fits m
    residual.elim p (p.addResidual fits)

def reconstruct (p : Picture rows cols) (s : Sources rows cols) (r : Fin rows) (c : Fin cols)
    (m : Macroblock) (residual : Option Residual) : Except DecodeError (Picture rows cols) := do
  let reference ← s.find m.reference
  return p.reconstructFrom s reference ⟨Plane.lumaFits r c, Plane.chromaFits r c⟩ m residual

end Picture

end Vp8
