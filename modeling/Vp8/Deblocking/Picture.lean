import Vp8.Deblocking.Edge
import Vp8.Image.Picture

/-!
Deblocking a whole picture, macroblock by macroblock in raster order. The edges of a macroblock are
filtered in the order left edge, inner vertical edges, top edge, inner horizontal edges, each on
what the edges before have left.
-/
namespace Vp8

/-- The edges of one macroblock in a plane where macroblocks measure `4 * (m + 1)` pixels. -/
structure EdgePlan where
  filter : FilterKind
  limits : EdgeLimits
  leftEdge : Bool
  topEdge : Bool
  innerEdges : Bool
  deriving DecidableEq, Repr

namespace Plane

abbrev blockSide (m : Nat) : Nat := 4 * (m + 1)

variable {rows cols m border : Nat}

def blockEdge (m : Nat) (orientation : Orientation) (r c k : Nat) : Edge where
  orientation := orientation
  x := blockSide m * c + match orientation with | .vertical => 4 * k | .horizontal => 0
  y := blockSide m * r + match orientation with | .vertical => 0 | .horizontal => 4 * k
  length := blockSide m

theorem blockEdge_inside (roomy : 4 ≤ border) (orientation : Orientation) (r : Fin rows)
    (c : Fin cols) {k : Nat} (small : k ≤ m) :
    (blockEdge m orientation r c k).Inside (blockSide m * cols) (blockSide m * rows) border := by
  have row := Nat.mul_le_mul_left (blockSide m) (Nat.succ_le_of_lt r.isLt)
  have col := Nat.mul_le_mul_left (blockSide m) (Nat.succ_le_of_lt c.isLt)
  rw [Nat.mul_succ] at row col
  have side : blockSide m = 4 * m + 4 := by unfold blockSide; omega
  unfold Edge.Inside blockEdge
  generalize blockSide m = n at *
  have rowI : (n : Int) * (r.val : Int) + n ≤ n * rows := by exact_mod_cast row
  have colI : (n : Int) * (c.val : Int) + n ≤ n * cols := by exact_mod_cast col
  have rowP : 0 ≤ (n : Int) * (r.val : Int) := by exact_mod_cast Nat.zero_le (n * r.val)
  have colP : 0 ≤ (n : Int) * (c.val : Int) := by exact_mod_cast Nat.zero_le (n * c.val)
  cases orientation <;> apply Encloses.covers <;>
    simp only [Plane.Encloses, Int.natCast_mul] <;> omega

def filterBlockEdge (plan : EdgePlan) (kind : EdgeKind) (roomy : 4 ≤ border)
    (orientation : Orientation) (r : Fin rows) (c : Fin cols) (k : Nat) (small : k ≤ m)
    (p : Plane (blockSide m * cols) (blockSide m * rows) border) :
    Plane (blockSide m * cols) (blockSide m * rows) border :=
  p.filterEdge plan.filter kind plan.limits (blockEdge m orientation r c k)
    (blockEdge_inside roomy orientation r c small)

def filterInnerEdges (plan : EdgePlan) (roomy : 4 ≤ border) (orientation : Orientation)
    (r : Fin rows) (c : Fin cols) (p : Plane (blockSide m * cols) (blockSide m * rows) border) :
    Plane (blockSide m * cols) (blockSide m * rows) border :=
  Fin.foldl m (fun p k =>
    p.filterBlockEdge plan .inner roomy orientation r c (k.val + 1) (by omega)) p

def filterMacroblock (plan : EdgePlan) (roomy : 4 ≤ border) (r : Fin rows) (c : Fin cols)
    (p : Plane (blockSide m * cols) (blockSide m * rows) border) :
    Plane (blockSide m * cols) (blockSide m * rows) border :=
  let p := if plan.leftEdge then
    p.filterBlockEdge plan .outer roomy .vertical r c 0 (by omega) else p
  let p := if plan.innerEdges then p.filterInnerEdges plan roomy .vertical r c else p
  let p := if plan.topEdge then
    p.filterBlockEdge plan .outer roomy .horizontal r c 0 (by omega) else p
  if plan.innerEdges then p.filterInnerEdges plan roomy .horizontal r c else p

end Plane

namespace Macroblock

/-- Inner edges are left alone where one prediction covers the whole macroblock and nothing was
    added to it. -/
def filtersInnerEdges (m : Macroblock) : Bool := !(m.skipped && !m.mode.bySubblock)

end Macroblock

namespace Picture

def filterMacroblock (plan : EdgePlan) (r : Fin rows) (c : Fin cols) (p : Picture rows cols) :
    Picture rows cols :=
  let luma := Plane.filterMacroblock plan luma_room r c (m := 3) p.luma
  match plan.filter with
  | .simple => { p with luma }
  | .normal =>
    { p with
      luma
      cb := Plane.filterMacroblock plan chroma_room r c (m := 1) p.cb
      cr := Plane.filterMacroblock plan chroma_room r c (m := 1) p.cr }

def filterAt (settings : FilterSettings) (level : Macroblock → Nat) (g : Grid rows cols)
    (r : Fin rows) (p : Picture rows cols) (c : Fin cols) : Picture rows cols :=
  let m := g.get r c
  if level m = 0 then p
  else p.filterMacroblock {
    filter := settings.kind
    limits := .ofLevel (level m) settings.sharpness settings.keyframe
    leftEdge := 0 < c.val
    topEdge := 0 < r.val
    innerEdges := m.filtersInnerEdges } r c

def deblock (settings : FilterSettings) (level : Macroblock → Nat) (g : Grid rows cols)
    (p : Picture rows cols) : Picture rows cols :=
  if settings.level = 0 then p
  else Fin.foldl rows (fun p r => Fin.foldl cols (filterAt settings level g r) p) p

end Picture

end Vp8
