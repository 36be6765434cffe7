import Vp8.Image.Plane
import Vp8.Macroblock.Mode

/-!
Intra prediction of whole blocks, 16x16 of luma or 8x8 of chroma, from the pixels around them.
-/
namespace Vp8

structure BlockEdges (n : Nat) where
  above : Vector UInt8 n
  left : Vector UInt8 n
  corner : UInt8
  deriving DecidableEq, Repr

namespace BlockEdges

variable {width height border : Nat}

def gather (p : Plane width height border) (x y : Int) (n : Nat)
    (row : Plane.Covers width height border (x - 1) (y - 1) (n + 1) 1)
    (column : Plane.Covers width height border (x - 1) (y - 1) 1 (n + 1)) : BlockEdges n where
  above := .ofFn fun i => p.pixel (x + i) (y - 1)
    (row.holds (by omega) (by omega) (by omega) (by omega))
  left := .ofFn fun i => p.pixel (x - 1) (y + i)
    (column.holds (by omega) (by omega) (by omega) (by omega))
  corner := p.pixel (x - 1) (y - 1) (row.holds (by omega) (by omega) (by omega) (by omega))

def sum (edge : Vector UInt8 n) : Nat :=
  edge.toList.foldr (fun pixel total => pixel.toNat + total) 0

/-- The number of pixels that an edge counts for in a mean: sixteen in luma, and eight in chroma and
    for any other size. -/
def weight (n : Nat) : Nat := if n = 16 then 16 else 8

def dc (e : BlockEdges n) : (haveAbove haveLeft : Bool) → UInt8
  | false, false => 128
  | true, false => ((sum e.above + weight n / 2) / weight n).toUInt8
  | false, true => ((sum e.left + weight n / 2) / weight n).toUInt8
  | true, true => ((sum e.above + sum e.left + weight n) / (2 * weight n)).toUInt8

/-- Continue the change along one edge from a pixel of the other. -/
def trueMotion (corner left above : UInt8) : UInt8 :=
  clampByte ((left.toNat : Int) + above.toNat - corner.toNat)

def predict (e : BlockEdges n) (mode : Mode) (haveAbove haveLeft : Bool) : Raster n n :=
  match mode with
  | .vertical => .replicate n e.above
  | .horizontal => e.left.map fun l => .replicate n l
  | .trueMotion => e.left.map fun l => e.above.map fun a => trueMotion e.corner l a
  | _ => .fill n n (e.dc haveAbove haveLeft)

end BlockEdges

def Plane.predictIntra {width height border : Nat} (p : Plane width height border) (x y : Int)
    (n : Nat) (row : Plane.Covers width height border (x - 1) (y - 1) (n + 1) 1)
    (column : Plane.Covers width height border (x - 1) (y - 1) 1 (n + 1))
    (inside : Plane.Covers width height border x y n n) (mode : Mode) (haveAbove haveLeft : Bool) :
    Plane width height border :=
  p.store x y ((BlockEdges.gather p x y n row column).predict mode haveAbove haveLeft) inside

end Vp8
