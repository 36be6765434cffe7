import Vp8.Frame.Header
import Vp8.Image.Pixel
import Vp8.Macroblock.Grid

/-!
Filter levels: how strongly each macroblock is deblocked, and the limits that a level sets to what
counts as an edge of the picture's own.
-/
namespace Vp8

structure FilterSettings where
  level : Nat
  sharpness : Nat
  kind : FilterKind
  keyframe : Bool
  deriving DecidableEq, Repr

namespace FilterSettings

def maxLevel : Nat := 63

def maxSharpness : Nat := 7

def ofHeader (level sharpness : Nat) (kind : FilterKind) (keyframe : Bool) : FilterSettings where
  level := min level maxLevel
  sharpness := min sharpness maxSharpness
  kind := kind
  keyframe := keyframe

end FilterSettings

namespace FilterLevel

def clamp (x : Int) : Nat := (saturate 0 63 x).toNat

def modeClass : Mode → Fin 4
  | .subblocks => 0
  | .nearest | .near | .new => 2
  | .split => 3
  | _ => 1

def ofSegment (base : Nat) (seg : Segmentation) (id : Fin 4) : Int :=
  if seg.enabled then clamp (seg.adjust base (seg.filterLevel.get id)) else base

/-- Adjust a level for a reference and a class of modes. Whole-macroblock intra modes take only the
    adjustment of the reference. -/
def adjust (a : FilterAdjustment) (level : Int) (reference : Reference) (mode : Fin 4) : Int :=
  if !a.enabled then level
  else
    let level := level + a.byReference.get reference.index
    if reference = .current ∧ mode ≠ 0 then level else level + a.byMode.get mode

def ofMacroblock (base : Nat) (seg : Segmentation) (a : FilterAdjustment) (m : Macroblock) : Nat :=
  clamp (adjust a (ofSegment base seg (Fin.ofNat 4 m.segment)) m.reference (modeClass m.mode))

end FilterLevel

/-- What the filter takes for a step of the coding and not of the picture. -/
structure EdgeLimits where
  interior : Int
  inner : Int
  outer : Int
  /-- Beyond this difference next to the edge, only the two pixels at the edge are changed. -/
  variance : Int
  deriving DecidableEq, Repr

namespace EdgeLimits

def interiorLimit (level sharpness : Nat) : Int :=
  let level : Int :=
    if sharpness = 0 then level else if sharpness ≤ 4 then level / 2 else level / 4
  max (if sharpness = 0 then level else min level (9 - sharpness)) 1

def varianceLimit (level : Nat) (keyframe : Bool) : Int :=
  if 40 ≤ level then if keyframe then 2 else 3
  else if 20 ≤ level ∧ !keyframe then 2
  else if 15 ≤ level then 1
  else 0

def ofLevel (level sharpness : Nat) (keyframe : Bool) : EdgeLimits :=
  let interior := interiorLimit level sharpness
  { interior
    inner := 2 * level + interior
    outer := 2 * (level + 2) + interior
    variance := varianceLimit level keyframe }

end EdgeLimits

end Vp8
