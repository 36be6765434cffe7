import Mathlib.Algebra.BigOperators.Fin
import Mathlib.Tactic.FinCases
import Vp8.Prediction.Subblock
import Vp8.Proofs.Table

/-!
Prediction of sub-blocks after the edge above and the left edge have changed places. The contour of
edge pixels is the same line then, walked from its other end, and a mean does not tell in which
direction its pixels follow one another. So the modes that look at no pixel beyond the two edges
predict the transposed block, where the two steep slopes change places.
-/
namespace Vp8

namespace Raster

variable {w h : Nat}

def transposed (b : Raster w h) : Raster h w := .ofFn fun c r => (b.get r).get c

theorem get_transposed (b : Raster w h) (r : Fin h) (c : Fin w) :
    (b.transposed.get c).get r = (b.get r).get c := by
  unfold transposed ofFn
  rw [get_ofFn, get_ofFn]

theorem eq_transposed {a : Raster w h} {b : Raster h w}
    (same : ∀ r c, (a.get r).get c = (b.get c).get r) : a = b.transposed := by
  apply ext_get
  intro r
  apply ext_get
  intro c
  rw [get_transposed]
  exact same r c

theorem transposed_transposed (b : Raster w h) : b.transposed.transposed = b :=
  (eq_transposed fun r c => (get_transposed b r c).symm).symm

end Raster

theorem mean2_comm (a b : UInt8) : mean2 a b = mean2 b a := by
  unfold mean2
  rw [Nat.add_comm a.toNat]

theorem mean3_reversed (a b c : UInt8) : mean3 a b c = mean3 c b a := by
  unfold mean3
  congr 1
  omega

namespace SubblockEdges

def aboveRight (e : SubblockEdges) : Vector UInt8 4 := .ofFn fun i => e.above.get (i.natAdd 4)

def mirrored (e : SubblockEdges) (right : Vector UInt8 4) : SubblockEdges where
  above := e.left ++ right
  left := .ofFn fun i => e.above.get (i.castAdd 4)
  corner := e.corner

variable (e : SubblockEdges) (right : Vector UInt8 4)

theorem above_mirrored (i : Fin 4) : (e.mirrored right).above.get (i.castAdd 4) = e.left.get i :=
  Vector.getElem_append_left i.isLt

theorem left_mirrored (i : Fin 4) : (e.mirrored right).left.get i = e.above.get (i.castAdd 4) :=
  get_ofFn _ i

theorem mirrored_mirrored : (e.mirrored right).mirrored e.aboveRight = e := by
  have above : (e.mirrored right).left ++ e.aboveRight = e.above := by
    apply Vector.ext
    intro k lt
    rw [Vector.getElem_append]
    split
    · exact left_mirrored e right ⟨k, ‹_›⟩
    · rename_i beyond
      apply (get_ofFn _ (⟨k - 4, by omega⟩ : Fin 4)).trans
      congr 1
      apply Fin.ext
      change 4 + (k - 4) = k
      omega
  have left : (Vector.ofFn fun i : Fin 4 => (e.mirrored right).above.get (i.castAdd 4)) = e.left :=
    ext_get fun i => (get_ofFn _ i).trans (above_mirrored e right i)
  change SubblockEdges.mk _ _ e.corner = e
  rw [above, left]

/-- Walked from its other end, the contour is that of the mirrored edges, as far as it leads along
    the two edges. -/
theorem contour_mirrored : ∀ k : Fin 9, (e.mirrored right).contour[k.val + 1] = e.contour[9 - k.val]
  | 0 => left_mirrored e right 3
  | 1 => left_mirrored e right 2
  | 2 => left_mirrored e right 1
  | 3 => left_mirrored e right 0
  | 4 => rfl
  | 5 => above_mirrored e right 0
  | 6 => above_mirrored e right 1
  | 7 => above_mirrored e right 2
  | 8 => above_mirrored e right 3

variable {e right}

theorem contour_facing {i j : Nat} (facing : i + j = 10) (first : 0 < i) (last : 0 < j) :
    (e.mirrored right).contour[i] = e.contour[j] := by
  obtain ⟨k, rfl⟩ := Nat.exists_eq_add_of_lt first
  obtain rfl : j = 9 - k := by omega
  rw [Nat.zero_add] at facing
  simp only [Nat.zero_add]
  exact contour_mirrored e right ⟨k, by omega⟩

theorem between_mirrored {i j : Fin 14} (facing : i.val + j.val = 9) (first : 0 < i.val)
    (last : 0 < j.val) : between (e.mirrored right).contour i = between e.contour j := by
  have start : (e.mirrored right).contour[i.val] = e.contour[j.val + 1] :=
    contour_facing (by omega) first (by omega)
  have stop : (e.mirrored right).contour[i.val + 1] = e.contour[j.val] :=
    contour_facing (by omega) (by omega) last
  unfold between
  rw [start, stop, mean2_comm]

theorem smooth_mirrored {i j : Fin 13} (facing : i.val + j.val = 8) (first : 0 < i.val)
    (last : 0 < j.val) : smooth (e.mirrored right).contour i = smooth e.contour j := by
  have start : (e.mirrored right).contour[i.val] = e.contour[j.val + 2] :=
    contour_facing (by omega) first (by omega)
  have middle : (e.mirrored right).contour[i.val + 1] = e.contour[j.val + 1] :=
    contour_facing (by omega) (by omega) (by omega)
  have stop : (e.mirrored right).contour[i.val + 2] = e.contour[j.val] :=
    contour_facing (by omega) (by omega) last
  unfold smooth
  rw [start, middle, stop, mean3_reversed]

/-! Numerals stand for places on the contour, of two pixels and of three. -/

instance indices14 : @NeZero Nat Zero.ofOfNat0 14 := ⟨by decide⟩
instance indices13 : @NeZero Nat Zero.ofOfNat0 13 := ⟨by decide⟩

variable (e right)

/-! With the two steep slopes, all pixels on one line have the same value. A line goes on by two
    pixels in one direction for each in the other, and ten of them meet the block. -/

/-- The line of a pixel, by what it lies away from the edge and along it. -/
def line (away along : Fin 4) : Fin 10 := ⟨2 * along.val + 3 - away.val, by omega⟩

/-- What the steep lines lead to, from the left edge on to the edge above. -/
def steep : Vector UInt8 10 :=
  let m := between e.contour
  let s := smooth e.contour
  #v[s 2, s 3, s 4, m 5, s 5, m 6, s 6, m 7, s 7, m 8]

/-- What the shallow lines lead to, from the edge above on to the left edge. -/
def shallow : Vector UInt8 10 :=
  let m := between e.contour
  let s := smooth e.contour
  #v[s 6, s 5, s 4, m 4, s 3, m 3, s 2, m 2, s 1, m 1]

theorem get_verticalRight (r c : Fin 4) :
    ((e.predict .verticalRight).get r).get c = e.steep.get (line r c) := by
  fin_cases r <;> fin_cases c <;> rfl

theorem get_horizontalDown (r c : Fin 4) :
    ((e.predict .horizontalDown).get r).get c = e.shallow.get (line c r) := by
  fin_cases r <;> fin_cases c <;> rfl

theorem get_shallow_mirrored : ∀ k : Fin 10, (e.mirrored right).shallow.get k = e.steep.get k
  | 0 | 1 | 2 | 4 | 6 | 8 => smooth_mirrored rfl (by decide) (by decide)
  | 3 | 5 | 7 | 9 => between_mirrored rfl (by decide) (by decide)

theorem horizontalDown_mirrored :
    (e.mirrored right).predict .horizontalDown = (e.predict .verticalRight).transposed := by
  apply Raster.eq_transposed
  intro r c
  rw [get_horizontalDown, get_verticalRight, get_shallow_mirrored]

theorem verticalRight_mirrored :
    (e.mirrored right).predict .verticalRight = (e.predict .horizontalDown).transposed := by
  have back := horizontalDown_mirrored (e.mirrored right) e.aboveRight
  rw [mirrored_mirrored] at back
  rw [back, Raster.transposed_transposed]

theorem get_downRight (r c : Fin 4) :
    ((e.predict .downRight).get r).get c = smooth e.contour ⟨4 + c - r, by omega⟩ := by
  fin_cases r <;> fin_cases c <;> rfl

theorem downRight_mirrored :
    (e.mirrored right).predict .downRight = (e.predict .downRight).transposed := by
  apply Raster.eq_transposed
  intro r c
  rw [get_downRight, get_downRight]
  apply smooth_mirrored
  all_goals
    dsimp only
    omega

theorem get_trueMotion (r c : Fin 4) :
    ((e.predict .trueMotion).get r).get c =
      clampByte ((e.left.get r).toNat + (e.above.get (c.castAdd 4)).toNat - e.corner.toNat) := by
  change (e.trueMotion.get r).get c = _
  unfold trueMotion
  rw [get_map, get_ofFn]
  rfl

theorem trueMotion_mirrored :
    (e.mirrored right).predict .trueMotion = (e.predict .trueMotion).transposed := by
  apply Raster.eq_transposed
  intro r c
  rw [get_trueMotion, get_trueMotion, above_mirrored, left_mirrored, Int.add_comm]
  rfl

theorem dc_eq_sums : e.dc = ((∑ k : Fin 4, (e.above.get (k.castAdd 4)).toNat +
    ∑ k : Fin 4, (e.left.get k).toNat + 4) / 8).toUInt8 := by
  rw [Fin.sum_univ_four, Fin.sum_univ_four, ← Nat.add_assoc, ← Nat.add_assoc, ← Nat.add_assoc]
  rfl

theorem dc_mirrored : (e.mirrored right).predict .dc = (e.predict .dc).transposed := by
  have mean : (e.mirrored right).dc = e.dc := by
    rw [dc_eq_sums, dc_eq_sums]
    simp only [above_mirrored, left_mirrored]
    rw [Nat.add_comm (∑ k : Fin 4, (e.left.get k).toNat)]
  have get_dc (e : SubblockEdges) (r c : Fin 4) : ((e.predict .dc).get r).get c = e.dc := by
    change ((Raster.fill 4 4 e.dc).get r).get c = e.dc
    unfold Raster.fill
    rw [get_replicate, get_replicate]
  apply Raster.eq_transposed
  intro r c
  rw [get_dc, get_dc, mean]

/-- Where the left edge and the edge above change places, the modes that look at these two and the
    corner alone predict the transposed block, whatever lies above to the right. -/
theorem mirrored_edges_predict_transposed :
    (e.mirrored right).predict .horizontalDown = (e.predict .verticalRight).transposed ∧
    (e.mirrored right).predict .verticalRight = (e.predict .horizontalDown).transposed ∧
    (e.mirrored right).predict .downRight = (e.predict .downRight).transposed ∧
    (e.mirrored right).predict .trueMotion = (e.predict .trueMotion).transposed ∧
    (e.mirrored right).predict .dc = (e.predict .dc).transposed :=
  ⟨horizontalDown_mirrored e right, verticalRight_mirrored e right, downRight_mirrored e right,
    trueMotion_mirrored e right, dc_mirrored e right⟩

end SubblockEdges

end Vp8
