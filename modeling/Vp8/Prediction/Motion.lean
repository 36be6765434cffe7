import Vp8.Image.Plane
import Vp8.Macroblock.MotionVector

/-!
Motion compensated prediction. The whole part of a vector picks the source pixels, and its low three
bits the filter that interpolates between them. Beyond its edges a reference goes on with its
outermost pixels.
-/
namespace Vp8

inductive Interpolation where
  | sixTap
  | bilinear
  deriving DecidableEq, Repr

namespace Interpolation

def sixTapFilters : Vector (Vector Int 6) 8 := #v[
  #v[0, 0, 128, 0, 0, 0],
  #v[0, -6, 123, 12, -1, 0],
  #v[2, -11, 108, 36, -8, 1],
  #v[0, -9, 93, 50, -6, 0],
  #v[3, -16, 77, 77, -16, 3],
  #v[0, -6, 50, 93, -9, 0],
  #v[1, -8, 36, 108, -11, 2],
  #v[0, -1, 12, 123, -6, 0]]

def bilinearFilters : Vector (Vector Int 2) 8 := #v[
  #v[128, 0],
  #v[112, 16],
  #v[96, 32],
  #v[80, 48],
  #v[64, 64],
  #v[48, 80],
  #v[32, 96],
  #v[16, 112]]

def roundTaps (sum : Int) : UInt8 := clampByte ((sum + 64) / 128)

def applySix (k : Vector Int 6) (a b c d e f : UInt8) : UInt8 :=
  roundTaps (k[0] * a.toNat + k[1] * b.toNat + k[2] * c.toNat + k[3] * d.toNat + k[4] * e.toNat
    + k[5] * f.toNat)

def applyTwo (k : Vector Int 2) (a b : UInt8) : UInt8 :=
  roundTaps (k[0] * a.toNat + k[1] * b.toNat)

def sixTapRows (k : Vector Int 6) (source : Raster (w + 5) h) : Raster w h :=
  source.map fun row => .ofFn fun c =>
    applySix k row[c.val] row[c.val + 1] row[c.val + 2] row[c.val + 3] row[c.val + 4] row[c.val + 5]

def sixTapColumns (k : Vector Int 6) (source : Raster w (h + 5)) : Raster w h :=
  Raster.ofFn fun r c =>
    applySix k (source[r.val].get c) (source[r.val + 1].get c) (source[r.val + 2].get c)
      (source[r.val + 3].get c) (source[r.val + 4].get c) (source[r.val + 5].get c)

def bilinearRows (k : Vector Int 2) (source : Raster (w + 1) h) : Raster w h :=
  source.map fun row => .ofFn fun c => applyTwo k row[c.val] row[c.val + 1]

def bilinearColumns (k : Vector Int 2) (source : Raster w (h + 1)) : Raster w h :=
  Raster.ofFn fun r c => applyTwo k (source[r.val].get c) (source[r.val + 1].get c)

end Interpolation

namespace MotionVector

def whole (x : Int16) : Int := x.toInt / 8

def phase (x : Int16) : Fin 8 := ⟨(x.toInt % 8).toNat, by omega⟩

end MotionVector

namespace Plane

variable {width height border : Nat}

/-- A window on the plane, which may lie beyond its edges. An empty picture shows zeros. -/
def window (p : Plane width height border) (x y : Int) (w h : Nat) : Raster w h :=
  if visible : Visible width height then
    Raster.ofFn fun r c => p.extended visible (x + c) (y + r)
  else .fill w h 0

open Interpolation MotionVector in
def predictMotion (reference : Plane width height border) (kind : Interpolation) (x y : Int)
    (w h : Nat) (v : MotionVector) : Raster w h :=
  let x := x + whole v.col
  let y := y + whole v.row
  let fx := phase v.col
  let fy := phase v.row
  if fx = 0 ∧ fy = 0 then reference.window x y w h
  else match kind with
    | .sixTap => sixTapColumns (sixTapFilters.get fy)
        (sixTapRows (sixTapFilters.get fx) (reference.window (x - 2) (y - 2) (w + 5) (h + 5)))
    | .bilinear => bilinearColumns (bilinearFilters.get fy)
        (bilinearRows (bilinearFilters.get fx) (reference.window x y (w + 1) (h + 1)))

end Plane

namespace MotionVector

def dropFraction (fullPixel : Bool) (x : Int) : Int := if fullPixel then x / 8 * 8 else x

def halve (fullPixel : Bool) (x : Int16) : Int :=
  dropFraction fullPixel ((x.toInt + if x.toInt < 0 then -1 else 1).tdiv 2)

def chroma (fullPixel : Bool) (v : MotionVector) : MotionVector :=
  .ofInts (halve fullPixel v.row) (halve fullPixel v.col)

/-- An eighth of the sum of four luma components, rounded to the nearest, away from zero. -/
def eighth (fullPixel : Bool) (sum : Int) : Int :=
  dropFraction fullPixel ((sum + 4 + if sum < 0 then -8 else 0).tdiv 8)

def chromaOfSplit (fullPixel : Bool) (a b c d : MotionVector) : MotionVector :=
  .ofInts (eighth fullPixel (a.row.toInt + b.row.toInt + c.row.toInt + d.row.toInt))
    (eighth fullPixel (a.col.toInt + b.col.toInt + c.col.toInt + d.col.toInt))

end MotionVector

end Vp8
