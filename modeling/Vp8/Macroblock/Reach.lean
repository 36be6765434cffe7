import Vp8.Image.Pixel
import Vp8.Macroblock.MotionVector

/-!
How far a macroblock lies from the edges of the picture, in eighths of a pixel, and the limits that
this sets to its vectors.
-/
namespace Vp8

/-- Distances to the edges; those to the left and to the top are not positive. -/
structure Reach where
  left : Int
  right : Int
  top : Int
  bottom : Int
  deriving DecidableEq, Repr

namespace Reach

def side : Int := 16 * 8

def ofPosition (row col rows cols : Nat) : Reach where
  left := -(side * col)
  right := side * ((cols : Int) - 1 - col)
  top := -(side * row)
  bottom := side * ((rows : Int) - 1 - row)

def words (r : Reach) : Reach where
  left := r.left.bmod 4294967296
  right := r.right.bmod 4294967296
  top := r.top.bmod 4294967296
  bottom := r.bottom.bmod 4294967296

def clamp (r : Reach) (v : MotionVector) : MotionVector :=
  .ofInts (saturate (r.top - side) (r.bottom + side) v.row.toInt)
    (saturate (r.left - side) (r.right + side) v.col.toInt)

def outside (r : Reach) (v : MotionVector) : Bool :=
  v.col.toInt < r.left - side || r.right + side < v.col.toInt ||
  v.row.toInt < r.top - side || r.bottom + side < v.row.toInt

/-- More than nineteen pixels before the picture, or eighteen behind it, no pixel of it is seen:
    sixteen pixels do as well. -/
def snap (low high x : Int) : Int :=
  if x < low - 19 * 8 then low - side else if high + 18 * 8 < x then high + side else x

def clampToBorder (r : Reach) (v : MotionVector) : MotionVector :=
  .ofInts (snap r.top r.bottom v.row.toInt) (snap r.left r.right v.col.toInt)

def snapChroma (low high x : Int) : Int :=
  let x := if 2 * x < low - 19 * 8 then (low - side) / 2 else x
  if high + 18 * 8 < 2 * x then (high + side) / 2 else x

def clampChromaToBorder (r : Reach) (v : MotionVector) : MotionVector :=
  .ofInts (snapChroma r.top r.bottom v.row.toInt) (snapChroma r.left r.right v.col.toInt)

end Reach

end Vp8
