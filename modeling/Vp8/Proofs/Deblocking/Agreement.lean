import Vp8.Deblocking.Picture
import Vp8.Proofs.Image.Agreement

/-!
The loop filter looks at the picture alone: pictures that agree inside are deblocked alike, whatever
their borders hold.
-/
namespace Vp8

def Edge.InPicture (e : Edge) (width height : Nat) : Prop :=
  ∀ i k, i < e.length → k < 8 → Plane.Inner width height (e.tapX i k) (e.tapY i k)

namespace Plane

variable {width height border : Nat} {p q : Plane width height border}

theorem Inner.encloses {x y : Int} (inner : Inner width height x y) :
    Encloses width height border x y 1 1 := by
  unfold Inner at inner
  unfold Encloses
  omega

theorem Agree.taps (agree : Agree (Inner width height) p q) {e : Edge}
    (inside : e.Inside width height border) (known : e.InPicture width height) (i : Fin e.length) :
    p.taps e inside i = q.taps e inside i := by
  have tap (k : Fin 8) : p.pixel (e.tapX i k) (e.tapY i k) (inside.holds i.isLt k.isLt) =
      q.pixel (e.tapX i k) (e.tapY i k) (inside.holds i.isLt k.isLt) := by
    have inner := known i k i.isLt k.isLt
    exact agree.pixel inner inner.encloses _
  simp only [Plane.taps, tap]

theorem Agree.setTaps (agree : Agree (Inner width height) p q) {e : Edge}
    (inside : e.Inside width height border) (known : e.InPicture width height) (i : Fin e.length)
    (t : Taps) :
    Agree (Inner width height) (p.setTaps e inside i t) (q.setTaps e inside i t) := by
  have here (k : Fin 8) : Encloses width height border (e.tapX i k) (e.tapY i k) 1 1 :=
    (known i k i.isLt k.isLt).encloses
  unfold Plane.setTaps
  dsimp only
  apply Agree.set _ _ (here 6)
  apply Agree.set _ _ (here 5)
  apply Agree.set _ _ (here 4)
  apply Agree.set _ _ (here 3)
  apply Agree.set _ _ (here 2)
  apply Agree.set _ _ (here 1)
  exact agree

theorem Agree.filterEdge (agree : Agree (Inner width height) p q) (filter : FilterKind)
    (kind : EdgeKind) (limits : EdgeLimits) {e : Edge} (inside : e.Inside width height border)
    (known : e.InPicture width height) :
    Agree (Inner width height) (p.filterEdge filter kind limits e inside)
      (q.filterEdge filter kind limits e inside) := by
  unfold Plane.filterEdge
  apply foldl_related (fun _ => Agree (Inner width height)) _ agree
  intro i p q agree
  unfold filterLine
  rw [agree.taps inside known]
  split
  · exact agree
  · exact agree.setTaps inside known i _

section Macroblocks

variable {rows cols m border : Nat} {p q : Plane (blockSide m * cols) (blockSide m * rows) border}

/-- Filtered edges have a macroblock, or a part of one, on both sides. -/
theorem blockEdge_inPicture (orientation : Orientation) (r : Fin rows) (c : Fin cols) {k : Nat}
    (small : k ≤ m)
    (behind : 0 < k ∨ match orientation with | .vertical => 0 < c.val | .horizontal => 0 < r.val) :
    (blockEdge m orientation r c k).InPicture (blockSide m * cols) (blockSide m * rows) := by
  intro i j line tap
  have row := Nat.mul_le_mul_left (blockSide m) (Nat.succ_le_of_lt r.isLt)
  have col := Nat.mul_le_mul_left (blockSide m) (Nat.succ_le_of_lt c.isLt)
  have above := @Nat.mul_le_mul_left 1 r.val (blockSide m)
  have before := @Nat.mul_le_mul_left 1 c.val (blockSide m)
  rw [Nat.mul_succ] at row col
  rw [Nat.mul_one] at above before
  have side : blockSide m = 4 * m + 4 := by unfold blockSide; omega
  unfold Inner Edge.tapX Edge.tapY blockEdge at *
  generalize blockSide m = n at *
  simp only [Int.natCast_mul]
  have rowI : (n : Int) * (r.val : Int) + n ≤ n * rows := by exact_mod_cast row
  have colI : (n : Int) * (c.val : Int) + n ≤ n * cols := by exact_mod_cast col
  have rowP : 0 ≤ (n : Int) * (r.val : Int) := by exact_mod_cast Nat.zero_le (n * r.val)
  have colP : 0 ≤ (n : Int) * (c.val : Int) := by exact_mod_cast Nat.zero_le (n * c.val)
  have aboveI : 1 ≤ r.val → (n : Int) ≤ n * (r.val : Int) := fun h => by exact_mod_cast above h
  have beforeI : 1 ≤ c.val → (n : Int) ≤ n * (c.val : Int) := fun h => by exact_mod_cast before h
  cases orientation <;> simp only at * <;> omega

theorem Agree.filterBlockEdge (agree : Agree (Inner (blockSide m * cols) (blockSide m * rows)) p q)
    (plan : EdgePlan) (kind : EdgeKind) (roomy : 4 ≤ border) (orientation : Orientation)
    (r : Fin rows) (c : Fin cols) {k : Nat} (small : k ≤ m)
    (behind : 0 < k ∨ match orientation with | .vertical => 0 < c.val | .horizontal => 0 < r.val) :
    Agree (Inner (blockSide m * cols) (blockSide m * rows))
      (p.filterBlockEdge plan kind roomy orientation r c k small)
      (q.filterBlockEdge plan kind roomy orientation r c k small) := by
  unfold Plane.filterBlockEdge
  apply agree.filterEdge
  exact blockEdge_inPicture orientation r c small behind

theorem Agree.filterInnerEdges (agree : Agree (Inner (blockSide m * cols) (blockSide m * rows)) p q)
    (plan : EdgePlan) (roomy : 4 ≤ border) (orientation : Orientation) (r : Fin rows)
    (c : Fin cols) :
    Agree (Inner (blockSide m * cols) (blockSide m * rows))
      (p.filterInnerEdges plan roomy orientation r c)
      (q.filterInnerEdges plan roomy orientation r c) := by
  unfold Plane.filterInnerEdges
  apply foldl_related (fun _ => Agree (Inner (blockSide m * cols) (blockSide m * rows))) _ agree
  intro k p q agree
  exact agree.filterBlockEdge plan .inner roomy orientation r c _ (.inl k.val.succ_pos)

theorem Agree.filterMacroblock (agree : Agree (Inner (blockSide m * cols) (blockSide m * rows)) p q)
    (plan : EdgePlan) (roomy : 4 ≤ border) (r : Fin rows) (c : Fin cols)
    (left : plan.leftEdge = true → 0 < c.val) (top : plan.topEdge = true → 0 < r.val) :
    Agree (Inner (blockSide m * cols) (blockSide m * rows))
      (Plane.filterMacroblock plan roomy r c p) (Plane.filterMacroblock plan roomy r c q) := by
  have first := agree.ite fun taken =>
    agree.filterBlockEdge plan .outer roomy .vertical r c (Nat.zero_le m) (.inr (left taken))
  have second := first.ite fun (_ : plan.innerEdges = true) =>
    first.filterInnerEdges plan roomy .vertical r c
  have third := second.ite fun taken =>
    second.filterBlockEdge plan .outer roomy .horizontal r c (Nat.zero_le m) (.inr (top taken))
  exact third.ite fun (_ : plan.innerEdges = true) =>
    third.filterInnerEdges plan roomy .horizontal r c

end Macroblocks

end Plane

namespace Picture

variable {rows cols : Nat} {p q : Picture rows cols}

theorem AgreeInside.filterMacroblock (agree : AgreeInside p q) (plan : EdgePlan) (r : Fin rows)
    (c : Fin cols) (left : plan.leftEdge = true → 0 < c.val)
    (top : plan.topEdge = true → 0 < r.val) :
    AgreeInside (p.filterMacroblock plan r c) (q.filterMacroblock plan r c) := by
  have luma := Plane.Agree.filterMacroblock (m := 3) agree.luma plan luma_room r c left top
  unfold Picture.filterMacroblock
  dsimp only
  split
  · exact { agree with luma }
  · exact {
      luma
      cb := Plane.Agree.filterMacroblock (m := 1) agree.cb plan chroma_room r c left top
      cr := Plane.Agree.filterMacroblock (m := 1) agree.cr plan chroma_room r c left top
      damaged := agree.damaged }

theorem AgreeInside.deblock (agree : AgreeInside p q) (settings : FilterSettings)
    (level : Macroblock → Nat) (g : Grid rows cols) :
    AgreeInside (p.deblock settings level g) (q.deblock settings level g) := by
  unfold Picture.deblock
  split
  · exact agree
  · apply foldl_related (fun _ => AgreeInside) _ agree
    intro r p q agree
    apply foldl_related (fun _ => AgreeInside) _ agree
    intro c p q agree
    unfold filterAt
    dsimp only
    split
    · exact agree
    · apply agree.filterMacroblock
      · exact of_decide_eq_true
      · exact of_decide_eq_true

end Picture

end Vp8
