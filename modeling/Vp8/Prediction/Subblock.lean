import Vp8.Image.Plane
import Vp8.Macroblock.Mode

/-!
Intra prediction of 4x4 sub-blocks. All directional modes are means along one line of pixels that
runs up the left edge, around the corner and along the edge above, and on to the right.
-/
namespace Vp8

structure SubblockEdges where
  /-- Four pixels above the block and four more to their right. -/
  above : Vector UInt8 8
  left : Vector UInt8 4
  corner : UInt8
  deriving DecidableEq, Repr

namespace SubblockEdges

variable {width height border : Nat}

abbrev Readable (width height border : Nat) (x y aboveRightRow : Int) : Prop :=
  Plane.Covers width height border (x - 1) (y - 1) 5 1 ∧
  Plane.Covers width height border (x - 1) (y - 1) 1 5 ∧
  Plane.Covers width height border (x + 4) aboveRightRow 4 1

def gather (p : Plane width height border) (x y aboveRightRow : Int)
    (readable : Readable width height border x y aboveRightRow) : SubblockEdges where
  above := .ofFn fun i =>
    if _h : i.val < 4 then p.pixel (x + i) (y - 1)
      (readable.1.holds (by omega) (by omega) (by omega) (by omega))
    else p.pixel (x + i) aboveRightRow
      (readable.2.2.holds (by omega) (by omega) (by omega) (by omega))
  left := .ofFn fun i => p.pixel (x - 1) (y + i)
    (readable.2.1.holds (by omega) (by omega) (by omega) (by omega))
  corner := p.pixel (x - 1) (y - 1) (readable.1.holds (by omega) (by omega) (by omega) (by omega))

/-- The contour of edge pixels, its two ends repeated: the left edge from below is at 1 to 4, the
    corner at 5 and the edge above from 6 on. -/
def contour (e : SubblockEdges) : Vector UInt8 15 :=
  #v[e.left.get 3, e.left.get 3, e.left.get 2, e.left.get 1, e.left.get 0, e.corner,
    e.above.get 0, e.above.get 1, e.above.get 2, e.above.get 3, e.above.get 4, e.above.get 5,
    e.above.get 6, e.above.get 7, e.above.get 7]

def between (contour : Vector UInt8 15) (k : Fin 14) : UInt8 :=
  mean2 contour[k.val] contour[k.val + 1]

def smooth (contour : Vector UInt8 15) (k : Fin 13) : UInt8 :=
  mean3 contour[k.val] contour[k.val + 1] contour[k.val + 2]

def dc (e : SubblockEdges) : UInt8 :=
  (((e.above.get 0).toNat + (e.above.get 1).toNat + (e.above.get 2).toNat + (e.above.get 3).toNat
    + (e.left.get 0).toNat + (e.left.get 1).toNat + (e.left.get 2).toNat + (e.left.get 3).toNat
    + 4) / 8).toUInt8

def trueMotion (e : SubblockEdges) : Raster 4 4 :=
  e.left.map fun l => .ofFn fun c =>
    clampByte ((l.toNat : Int) + e.above[c.val].toNat - e.corner.toNat)

def predict (e : SubblockEdges) (mode : SubblockMode) : Raster 4 4 :=
  let contour := e.contour
  let m := between contour
  let s := smooth contour
  match mode with
  | .dc => .fill 4 4 e.dc
  | .trueMotion => e.trueMotion
  | .vertical => .replicate 4 #v[s 5, s 6, s 7, s 8]
  | .horizontal => #v[.replicate 4 (s 3), .replicate 4 (s 2), .replicate 4 (s 1), .replicate 4 (s 0)]
  | .downLeft => #v[
      #v[s 6, s 7, s 8, s 9],
      #v[s 7, s 8, s 9, s 10],
      #v[s 8, s 9, s 10, s 11],
      #v[s 9, s 10, s 11, s 12]]
  | .downRight => #v[
      #v[s 4, s 5, s 6, s 7],
      #v[s 3, s 4, s 5, s 6],
      #v[s 2, s 3, s 4, s 5],
      #v[s 1, s 2, s 3, s 4]]
  | .verticalRight => #v[
      #v[m 5, m 6, m 7, m 8],
      #v[s 4, s 5, s 6, s 7],
      #v[s 3, m 5, m 6, m 7],
      #v[s 2, s 4, s 5, s 6]]
  | .verticalLeft => #v[
      #v[m 6, m 7, m 8, m 9],
      #v[s 6, s 7, s 8, s 9],
      #v[m 7, m 8, m 9, s 10],
      #v[s 7, s 8, s 9, s 11]]
  | .horizontalDown => #v[
      #v[m 4, s 4, s 5, s 6],
      #v[m 3, s 3, m 4, s 4],
      #v[m 2, s 2, m 3, s 3],
      #v[m 1, s 1, m 2, s 2]]
  | .horizontalUp => #v[
      #v[m 3, s 2, m 2, s 1],
      #v[m 2, s 1, m 1, s 0],
      #v[m 1, s 0, e.left.get 3, e.left.get 3],
      .replicate 4 (e.left.get 3)]

end SubblockEdges

end Vp8
