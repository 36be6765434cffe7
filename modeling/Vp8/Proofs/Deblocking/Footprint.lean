import Mathlib.Data.Fintype.Basic
import Mathlib.Tactic.FinCases
import Vp8.Proofs.Checked
import Vp8.Proofs.Deblocking.Agreement

/-!
What the loop filter looks at and what it leaves alone. Pixels change up to three places from an
edge that is filtered, or next to it with the simple filter. A macroblock filters its inner edges
and those to the macroblocks before it, so it reaches into its left and its upper neighbour and no
further, and never out of the picture.
-/
namespace Vp8

def FilterKind.reach : FilterKind → Nat
  | normal => 3
  | simple => 1

theorem FilterKind.reach_le (filter : FilterKind) : filter.reach ≤ 3 := by
  cases filter <;> decide

namespace Taps

def entry (t : Taps) : Fin 8 → UInt8
  | 0 => t.p3
  | 1 => t.p2
  | 2 => t.p1
  | 3 => t.p0
  | 4 => t.q0
  | 5 => t.q1
  | 6 => t.q2
  | 7 => t.q3

variable {t u : Taps} {k : Fin 8}

theorem simpleFilter_keeps (far : k.val < 3 ∨ 5 ≤ k.val) : t.simpleFilter.entry k = t.entry k := by
  fin_cases k <;> first | rfl | exact absurd far (by decide)

theorem innerFilter_keeps (varied : Bool) (far : k.val < 1 ∨ 7 ≤ k.val) :
    (t.innerFilter varied).entry k = t.entry k := by
  cases varied <;> fin_cases k <;> first | rfl | exact absurd far (by decide)

theorem outerFilter_keeps (varied : Bool) (far : k.val < 1 ∨ 7 ≤ k.val) :
    (t.outerFilter varied).entry k = t.entry k := by
  cases varied <;> fin_cases k <;> first | rfl | exact absurd far (by decide)

theorem filter?_keeps {filter : FilterKind} {kind : EdgeKind} {limits : EdgeLimits}
    (done : t.filter? filter kind limits = some u)
    (far : k.val + filter.reach < 4 ∨ 4 + filter.reach ≤ k.val) : u.entry k = t.entry k := by
  unfold filter? at done
  split at done
  · contradiction
  · cases filter with
    | simple =>
      obtain rfl := Option.some.inj done
      change k.val + 1 < 4 ∨ 4 + 1 ≤ k.val at far
      exact simpleFilter_keeps (by omega)
    | normal =>
      change k.val + 3 < 4 ∨ 4 + 3 ≤ k.val at far
      dsimp only at done
      split at done
      · contradiction
      · cases kind with
        | outer =>
          obtain rfl := Option.some.inj done
          exact outerFilter_keeps _ (by omega)
        | inner =>
          obtain rfl := Option.some.inj done
          exact innerFilter_keeps _ (by omega)

end Taps

instance {width height : Nat} (x y : Int) : Decidable (Plane.Inner width height x y) :=
  inferInstanceAs (Decidable (_ ∧ _))

namespace Edge

def Near (e : Edge) (n : Nat) : Region :=
  match e.orientation with
  | .vertical => Plane.InBlock (e.x - n) e.y (2 * n) e.length
  | .horizontal => Plane.InBlock e.x (e.y - n) e.length (2 * n)

theorem near_of_tap {e : Edge} {n i k : Nat} (line : i < e.length) (close : 4 ≤ k + n ∧ k < 4 + n) :
    e.Near n (e.tapX i k) (e.tapY i k) := by
  unfold Near tapX tapY Plane.InBlock
  cases e.orientation
  all_goals
    dsimp only
    omega

instance (e : Edge) (width height : Nat) : Decidable (e.InPicture width height) :=
  decidable_of_iff
    (∀ (i : Fin e.length) (k : Fin 8), Plane.Inner width height (e.tapX i k) (e.tapY i k))
    ⟨fun known i k line tap => known ⟨i, line⟩ ⟨k, tap⟩,
      fun known i k => known i k i.isLt k.isLt⟩

end Edge

namespace Plane

section Edges

variable {width height border : Nat} {p : Plane width height border} {e : Edge} {u v : Int}

theorem taps_entry (inside : e.Inside width height border) (known : e.InPicture width height)
    (i : Fin e.length) (k : Fin 8) :
    (p.taps e inside i).entry k = p.sample (e.tapX i k) (e.tapY i k) := by
  have tap (k : Fin 8) := pixel_eq_sample p (known i k i.isLt k.isLt).encloses
    (inside.holds i.isLt k.isLt)
  fin_cases k <;> exact tap _

theorem setTaps_keeps (inside : e.Inside width height border) (known : e.InPicture width height)
    (i : Fin e.length) (t : Taps)
    (same : ∀ k : Fin 8, u = e.tapX i k ∧ v = e.tapY i k → t.entry k = p.sample u v) :
    (p.setTaps e inside i t).sample u v = p.sample u v := by
  have put (k : Fin 8) {q : Plane width height border} (before : q.sample u v = p.sample u v) :
      (q.set (e.tapX i k) (e.tapY i k) (t.entry k) (inside.holds i.isLt k.isLt)).sample u v =
        p.sample u v := by
    rw [sample_set q _ (known i k i.isLt k.isLt).encloses]
    split
    · exact same k ‹_›
    · exact before
  exact put 6 (put 5 (put 4 (put 3 (put 2 (put 1 rfl)))))

theorem filterEdge_keeps (filter : FilterKind) (kind : EdgeKind) (limits : EdgeLimits)
    (inside : e.Inside width height border) (known : e.InPicture width height)
    (far : ¬ e.Near filter.reach u v) :
    (p.filterEdge filter kind limits e inside).sample u v = p.sample u v := by
  apply foldl_keeps fun p : Plane width height border => p.sample u v
  intro p i
  unfold filterLine
  split
  · rfl
  · rename_i t done
    apply setTaps_keeps inside known
    rintro k ⟨rfl, rfl⟩
    rw [← taps_entry inside known]
    apply Taps.filter?_keeps done
    by_contra close
    exact far (Edge.near_of_tap i.isLt (by omega))

end Edges

section Macroblocks

variable {rows cols m border : Nat} {u v : Int}

/-- The places of a macroblock of `n` pixels and `k` pixels of the neighbours on the given sides. -/
def Reached (n k : Nat) (left top : Bool) (r c : Nat) : Region := fun u v =>
  InBlock (n * c : Nat) (n * r : Nat) n n u v ∨
  (left = true ∧ InBlock ((n * c : Nat) - k) (n * r : Nat) k n u v) ∨
  (top = true ∧ InBlock (n * c : Nat) ((n * r : Nat) - k) n k u v)

variable {n k r c : Nat} {left top : Bool}

theorem reached_of_near_left (narrow : k ≤ blockSide m) (taken : left = true)
    (near : (blockEdge m .vertical r c 0).Near k u v) :
    Reached (blockSide m) k left top r c u v := by
  have place : InBlock (blockSide m * c : Nat) (blockSide m * r : Nat) (blockSide m) (blockSide m)
      u v ∨ InBlock ((blockSide m * c : Nat) - k) (blockSide m * r : Nat) k (blockSide m) u v := by
    unfold Edge.Near blockEdge InBlock at *
    dsimp only at *
    omega
  exact place.imp_right fun strip => .inl ⟨taken, strip⟩

theorem reached_of_near_top (narrow : k ≤ blockSide m) (taken : top = true)
    (near : (blockEdge m .horizontal r c 0).Near k u v) :
    Reached (blockSide m) k left top r c u v := by
  have place : InBlock (blockSide m * c : Nat) (blockSide m * r : Nat) (blockSide m) (blockSide m)
      u v ∨ InBlock (blockSide m * c : Nat) ((blockSide m * r : Nat) - k) (blockSide m) k u v := by
    unfold Edge.Near blockEdge InBlock at *
    dsimp only at *
    omega
  exact place.imp_right fun strip => .inr ⟨taken, strip⟩

theorem reached_of_near_inner (narrow : k ≤ 3) (orientation : Orientation) (j : Fin m)
    (near : (blockEdge m orientation r c (j.val + 1)).Near k u v) :
    Reached (blockSide m) k left top r c u v := by
  left
  have side : blockSide m = 4 * m + 4 := by unfold blockSide; omega
  unfold Edge.Near blockEdge InBlock at *
  cases orientation
  all_goals
    dsimp only at *
    omega

theorem sample_ite {width height border : Nat} {p q : Plane width height border} {taken : Bool}
    (keeps : taken = true → q.sample u v = p.sample u v) :
    (if taken then q else p).sample u v = p.sample u v := by
  cases taken with
  | false => rfl
  | true => exact keeps rfl

theorem filterMacroblock_keeps (plan : EdgePlan) (roomy : 4 ≤ border) (r : Fin rows) (c : Fin cols)
    (left : plan.leftEdge = true → 0 < c.val) (top : plan.topEdge = true → 0 < r.val)
    (p : Plane (blockSide m * cols) (blockSide m * rows) border)
    (apart : ¬ Reached (blockSide m) plan.filter.reach plan.leftEdge plan.topEdge r c u v) :
    (filterMacroblock plan roomy r c p).sample u v = p.sample u v := by
  have narrow := plan.filter.reach_le
  have side : 3 ≤ blockSide m := by unfold blockSide; omega
  have first (taken : plan.leftEdge = true)
      (p : Plane (blockSide m * cols) (blockSide m * rows) border) :
      (p.filterBlockEdge plan .outer roomy .vertical r c 0 (by omega)).sample u v =
        p.sample u v :=
    filterEdge_keeps _ _ _ _ (blockEdge_inPicture _ r c (Nat.zero_le m) (.inr (left taken)))
      fun near => apart (reached_of_near_left (by omega) taken near)
  have third (taken : plan.topEdge = true)
      (p : Plane (blockSide m * cols) (blockSide m * rows) border) :
      (p.filterBlockEdge plan .outer roomy .horizontal r c 0 (by omega)).sample u v =
        p.sample u v :=
    filterEdge_keeps _ _ _ _ (blockEdge_inPicture _ r c (Nat.zero_le m) (.inr (top taken)))
      fun near => apart (reached_of_near_top (by omega) taken near)
  have inner (orientation : Orientation)
      (p : Plane (blockSide m * cols) (blockSide m * rows) border) :
      (p.filterInnerEdges plan roomy orientation r c).sample u v = p.sample u v := by
    apply foldl_keeps fun p : Plane (blockSide m * cols) (blockSide m * rows) border =>
      p.sample u v
    intro p j
    exact filterEdge_keeps _ _ _ _ (blockEdge_inPicture _ r c (by omega) (.inl j.val.succ_pos))
      fun near => apart (reached_of_near_inner narrow orientation j near)
  -- from the last group of edges back to the first
  calc (filterMacroblock plan roomy r c p).sample u v
    _ = _ := sample_ite fun _ => inner .horizontal _
    _ = _ := sample_ite fun taken => third taken _
    _ = _ := sample_ite fun _ => inner .vertical _
    _ = p.sample u v := sample_ite fun taken => first taken _

/-! The same with the demand that every edge has all of its taps in the picture. -/

def filterBlockEdgeWithin? (plan : EdgePlan) (kind : EdgeKind) (roomy : 4 ≤ border)
    (orientation : Orientation) (r : Fin rows) (c : Fin cols) (k : Nat) (small : k ≤ m)
    (p : Plane (blockSide m * cols) (blockSide m * rows) border) :
    Option (Plane (blockSide m * cols) (blockSide m * rows) border) :=
  demand
    ((blockEdge m orientation r c k).InPicture (blockSide m * cols) (blockSide m * rows))
    fun _ => p.filterBlockEdge plan kind roomy orientation r c k small

def filterInnerEdgesWithin? (plan : EdgePlan) (roomy : 4 ≤ border) (orientation : Orientation)
    (r : Fin rows) (c : Fin cols) (p : Plane (blockSide m * cols) (blockSide m * rows) border) :
    Option (Plane (blockSide m * cols) (blockSide m * rows) border) :=
  Fin.foldlM m (fun p k =>
    p.filterBlockEdgeWithin? plan .inner roomy orientation r c (k.val + 1) k.isLt) p

def filterMacroblockWithin? (plan : EdgePlan) (roomy : 4 ≤ border) (r : Fin rows) (c : Fin cols)
    (p : Plane (blockSide m * cols) (blockSide m * rows) border) :
    Option (Plane (blockSide m * cols) (blockSide m * rows) border) := do
  let p ← if plan.leftEdge then
    p.filterBlockEdgeWithin? plan .outer roomy .vertical r c 0 (Nat.zero_le m) else pure p
  let p ← if plan.innerEdges then p.filterInnerEdgesWithin? plan roomy .vertical r c else pure p
  let p ← if plan.topEdge then
    p.filterBlockEdgeWithin? plan .outer roomy .horizontal r c 0 (Nat.zero_le m) else pure p
  if plan.innerEdges then p.filterInnerEdgesWithin? plan roomy .horizontal r c else pure p

theorem filterInnerEdgesWithin?_eq (plan : EdgePlan) (roomy : 4 ≤ border)
    (orientation : Orientation) (r : Fin rows) (c : Fin cols)
    (p : Plane (blockSide m * cols) (blockSide m * rows) border) :
    p.filterInnerEdgesWithin? plan roomy orientation r c =
      some (p.filterInnerEdges plan roomy orientation r c) := by
  apply foldlM_some
  intro p k
  exact demand_eq (blockEdge_inPicture _ r c (by omega) (.inl k.val.succ_pos)) _

theorem filterMacroblockWithin?_eq (plan : EdgePlan) (roomy : 4 ≤ border) (r : Fin rows)
    (c : Fin cols) (left : plan.leftEdge = true → 0 < c.val)
    (top : plan.topEdge = true → 0 < r.val)
    (p : Plane (blockSide m * cols) (blockSide m * rows) border) :
    p.filterMacroblockWithin? plan roomy r c = some (p.filterMacroblock plan roomy r c) := by
  have outerLeft (taken : plan.leftEdge = true)
      (p : Plane (blockSide m * cols) (blockSide m * rows) border) :
      p.filterBlockEdgeWithin? plan .outer roomy .vertical r c 0 (by omega) =
        some (p.filterBlockEdge plan .outer roomy .vertical r c 0 (by omega)) :=
    demand_eq (blockEdge_inPicture _ r c (Nat.zero_le m) (.inr (left taken))) _
  have outerTop (taken : plan.topEdge = true)
      (p : Plane (blockSide m * cols) (blockSide m * rows) border) :
      p.filterBlockEdgeWithin? plan .outer roomy .horizontal r c 0 (by omega) =
        some (p.filterBlockEdge plan .outer roomy .horizontal r c 0 (by omega)) :=
    demand_eq (blockEdge_inPicture _ r c (Nat.zero_le m) (.inr (top taken))) _
  have inner := filterInnerEdgesWithin?_eq (m := m) plan roomy (r := r) (c := c)
  unfold filterMacroblockWithin? filterMacroblock
  cases hasLeft : plan.leftEdge <;> cases plan.innerEdges <;> cases hasTop : plan.topEdge <;>
    simp only [outerLeft, outerTop, inner, hasLeft, hasTop, Bool.false_eq_true, if_true, if_false,
      Option.pure_def, Option.bind_eq_bind, Option.bind_some]

end Macroblocks

section Tiles

variable {n k r c r' c' : Nat} {left top : Bool} {u v : Int}

theorem tile_unique {a b : Nat} (first : (n * a : Nat) ≤ u ∧ u < (n * a : Nat) + n)
    (second : (n * b : Nat) ≤ u ∧ u < (n * b : Nat) + n) : a = b := by
  obtain ⟨d, hd⟩ := Int.eq_ofNat_of_zero_le (show 0 ≤ u - (n * a : Nat) by omega)
  obtain ⟨e, he⟩ := Int.eq_ofNat_of_zero_le (show 0 ≤ u - (n * b : Nat) by omega)
  apply row_unique (show d < n by omega) (show e < n by omega)
  rw [Nat.mul_comm a, Nat.mul_comm b]
  omega

theorem tile_before {a b : Nat} (narrow : k ≤ n) (positive : 0 < b)
    (first : (n * a : Nat) ≤ u ∧ u < (n * a : Nat) + n)
    (second : (n * b : Nat) - k ≤ u ∧ u < (n * b : Nat)) : b = a + 1 := by
  obtain ⟨d, rfl⟩ : ∃ d, b = d + 1 := ⟨b - 1, by omega⟩
  rw [Nat.mul_succ] at second
  have same : a = d := tile_unique first ⟨by omega, by omega⟩
  rw [same]

/-- A macroblock reaches a pixel of another one only from its right or from below. -/
theorem Reached.beside (narrow : k ≤ n) (notFirst : left = true → 0 < c')
    (notTop : top = true → 0 < r') (place : InBlock (n * c : Nat) (n * r : Nat) n n u v)
    (reached : Reached n k left top r' c' u v) :
    (r' = r ∧ c' = c) ∨ (r' = r ∧ c' = c + 1 ∧ (n * c' : Nat) - k ≤ u) ∨
      (r' = r + 1 ∧ c' = c ∧ (n * r' : Nat) - k ≤ v) := by
  obtain ⟨here, there, above, below⟩ := place
  rcases reached with ⟨h0, h1, h2, h3⟩ | ⟨taken, h0, h1, h2, h3⟩ | ⟨taken, h0, h1, h2, h3⟩
  · exact .inl ⟨tile_unique ⟨h2, h3⟩ ⟨above, below⟩, tile_unique ⟨h0, h1⟩ ⟨here, there⟩⟩
  · refine .inr (.inl ⟨tile_unique ⟨h2, h3⟩ ⟨above, below⟩, ?_, h0⟩)
    exact tile_before narrow (notFirst taken) ⟨here, there⟩ ⟨h0, by omega⟩
  · refine .inr (.inr ⟨?_, tile_unique ⟨h0, h1⟩ ⟨here, there⟩, h2⟩)
    exact tile_before narrow (notTop taken) ⟨above, below⟩ ⟨h2, by omega⟩

theorem Reached.inner {rows cols : Nat} {r : Fin rows} {c : Fin cols} (narrow : k ≤ n)
    (notFirst : left = true → 0 < c.val) (notTop : top = true → 0 < r.val)
    (reached : Reached n k left top r c u v) : Inner (n * cols) (n * rows) u v := by
  have row := Nat.mul_le_mul_left n (Nat.succ_le_of_lt r.isLt)
  have col := Nat.mul_le_mul_left n (Nat.succ_le_of_lt c.isLt)
  rw [Nat.mul_succ] at row col
  unfold Inner
  rcases reached with ⟨h0, h1, h2, h3⟩ | ⟨taken, h0, h1, h2, h3⟩ | ⟨taken, h0, h1, h2, h3⟩
  · omega
  · have before := Nat.mul_le_mul_left n (Nat.succ_le_of_lt (notFirst taken))
    omega
  · have above := Nat.mul_le_mul_left n (Nat.succ_le_of_lt (notTop taken))
    omega

end Tiles

/-- The difference between a plane and what filtering some of its macroblocks made of it. They
    measure `n` pixels, and their filter reaches `k` pixels beyond them. -/
structure Footprint {rows cols border : Nat} (n k : Nat) (filtered : Fin rows → Fin cols → Prop)
    (p q : Plane (n * cols) (n * rows) border) : Prop where
  border : ∀ u v, ¬ Inner (n * cols) (n * rows) u v → q.sample u v = p.sample u v
  neighbours : ∀ r c, ¬ filtered r c → ∀ u v, InBlock (n * c.val : Nat) (n * r.val : Nat) n n u v →
    q.sample u v ≠ p.sample u v →
    (∃ right : Fin cols, right.val = c.val + 1 ∧ filtered r right ∧
        (n * right.val : Nat) - k ≤ u) ∨
      (∃ below : Fin rows, below.val = r.val + 1 ∧ filtered below c ∧
        (n * below.val : Nat) - k ≤ v)

theorem Footprint.of_reached {rows cols border n k : Nat} {filtered : Fin rows → Fin cols → Prop}
    {p q : Plane (n * cols) (n * rows) border} (narrow : k ≤ n)
    (changed : ∀ u v, q.sample u v ≠ p.sample u v → ∃ (r : Fin rows) (c : Fin cols),
      filtered r c ∧ Reached n k (0 < c.val) (0 < r.val) r c u v) :
    Footprint n k filtered p q := by
  constructor
  · intro u v outside
    by_contra different
    obtain ⟨r, c, _, reached⟩ := changed u v different
    exact outside (reached.inner narrow of_decide_eq_true of_decide_eq_true)
  · intro r c spared u v place different
    obtain ⟨r', c', taken, reached⟩ := changed u v different
    rcases reached.beside narrow of_decide_eq_true of_decide_eq_true place with
      ⟨row, column⟩ | ⟨row, column, close⟩ | ⟨row, column, close⟩
    · rw [Fin.ext row, Fin.ext column] at taken
      exact absurd taken spared
    · rw [Fin.ext row] at taken
      exact .inl ⟨c', column, taken, close⟩
    · rw [Fin.ext column] at taken
      exact .inr ⟨r', row, taken, close⟩

end Plane

namespace Picture

variable {rows cols : Nat} {settings : FilterSettings} {level : Macroblock → Nat}
  {g : Grid rows cols}

def planAt (settings : FilterSettings) (level : Macroblock → Nat) (g : Grid rows cols)
    (r : Fin rows) (c : Fin cols) : EdgePlan where
  filter := settings.kind
  limits := .ofLevel (level (g.get r c)) settings.sharpness settings.keyframe
  leftEdge := 0 < c.val
  topEdge := 0 < r.val
  innerEdges := (g.get r c).filtersInnerEdges

/-- What no macroblock with a level changes. -/
theorem deblock_keeps {β : Type} (observe : Picture rows cols → β)
    (keeps : ∀ p r c, level (g.get r c) ≠ 0 →
      observe (p.filterMacroblock (planAt settings level g r c) r c) = observe p)
    (p : Picture rows cols) : observe (p.deblock settings level g) = observe p := by
  unfold deblock
  split
  · rfl
  · apply foldl_keeps observe
    intro p r
    apply foldl_keeps observe
    intro p c
    unfold filterAt
    dsimp only
    split
    · rfl
    · exact keeps p r c ‹_›

theorem filterMacroblock_luma (plan : EdgePlan) (r : Fin rows) (c : Fin cols)
    (p : Picture rows cols) : (p.filterMacroblock plan r c).luma =
      Plane.filterMacroblock plan luma_room r c (m := 3) p.luma := by
  unfold filterMacroblock
  dsimp only
  split <;> rfl

/-- What holds of a chroma plane after every filter, if it does so after the normal one. -/
theorem filterMacroblock_chroma (plan : EdgePlan) (r : Fin rows) (c : Fin cols)
    (P : Plane (8 * cols) (8 * rows) 16 → Plane (8 * cols) (8 * rows) 16 → Prop)
    (same : ∀ p, P p p)
    (filtered : ∀ p, P p (Plane.filterMacroblock plan chroma_room r c (m := 1) p))
    (p : Picture rows cols) :
    P p.cb (p.filterMacroblock plan r c).cb ∧ P p.cr (p.filterMacroblock plan r c).cr := by
  unfold filterMacroblock
  dsimp only
  split
  · exact ⟨same _, same _⟩
  · exact ⟨filtered _, filtered _⟩

theorem luma_footprint (settings : FilterSettings) (level : Macroblock → Nat) (g : Grid rows cols)
    (p : Picture rows cols) :
    Plane.Footprint 16 settings.kind.reach (fun r c => level (g.get r c) ≠ 0) p.luma
      (p.deblock settings level g).luma := by
  have narrow := settings.kind.reach_le
  refine .of_reached (by omega) fun u v different => ?_
  by_contra spared
  refine different (deblock_keeps (fun p => p.luma.sample u v) (fun p r c taken => ?_) p)
  rw [filterMacroblock_luma]
  exact Plane.filterMacroblock_keeps (m := 3) _ luma_room r c of_decide_eq_true of_decide_eq_true _
    fun reached => spared ⟨r, c, taken, reached⟩

theorem chroma_footprint (settings : FilterSettings) (level : Macroblock → Nat)
    (g : Grid rows cols) (p : Picture rows cols) :
    Plane.Footprint 8 settings.kind.reach (fun r c => level (g.get r c) ≠ 0) p.cb
        (p.deblock settings level g).cb ∧
      Plane.Footprint 8 settings.kind.reach (fun r c => level (g.get r c) ≠ 0) p.cr
        (p.deblock settings level g).cr := by
  have narrow := settings.kind.reach_le
  have keeps (u v : Int) (spared : ¬ ∃ (r : Fin rows) (c : Fin cols), level (g.get r c) ≠ 0 ∧
        Plane.Reached 8 settings.kind.reach (0 < c.val) (0 < r.val) r c u v)
      (p : Picture rows cols) (r : Fin rows) (c : Fin cols) (taken : level (g.get r c) ≠ 0) :=
    filterMacroblock_chroma (planAt settings level g r c) r c
      (fun p q => q.sample u v = p.sample u v) (fun _ => rfl)
      (Plane.filterMacroblock_keeps (m := 1) _ chroma_room r c of_decide_eq_true of_decide_eq_true
        · fun reached => spared ⟨r, c, taken, reached⟩) p
  constructor
  · refine .of_reached (by omega) fun u v different => ?_
    by_contra spared
    exact different (deblock_keeps (fun p => p.cb.sample u v)
      (fun p r c taken => (keeps u v spared p r c taken).1) p)
  · refine .of_reached (by omega) fun u v different => ?_
    by_contra spared
    exact different (deblock_keeps (fun p => p.cr.sample u v)
      (fun p r c taken => (keeps u v spared p r c taken).2) p)

theorem simple_keeps_chroma (simple : settings.kind = .simple) (level : Macroblock → Nat)
    (g : Grid rows cols) (p : Picture rows cols) :
    (p.deblock settings level g).cb = p.cb ∧ (p.deblock settings level g).cr = p.cr := by
  have keeps (p : Picture rows cols) (r : Fin rows) (c : Fin cols) :
      (p.filterMacroblock (planAt settings level g r c) r c).cb = p.cb ∧
        (p.filterMacroblock (planAt settings level g r c) r c).cr = p.cr := by
    unfold filterMacroblock planAt
    rw [simple]
    exact ⟨rfl, rfl⟩
  exact ⟨deblock_keeps Picture.cb (fun p r c _ => (keeps p r c).1) p,
    deblock_keeps Picture.cr (fun p r c _ => (keeps p r c).2) p⟩

theorem level_zero_keeps (off : settings.level = 0 ∨ ∀ r c, level (g.get r c) = 0)
    (p : Picture rows cols) : p.deblock settings level g = p := by
  rcases off with off | off
  · unfold deblock
    rw [if_pos off]
  · exact deblock_keeps id (fun p r c taken => absurd (off r c) taken) p

/-! The same with the demand that every edge has all of its taps in the picture. -/

def filterMacroblockWithin? (plan : EdgePlan) (r : Fin rows) (c : Fin cols)
    (p : Picture rows cols) : Option (Picture rows cols) := do
  let luma ← Plane.filterMacroblockWithin? plan luma_room r c (m := 3) p.luma
  match plan.filter with
  | .simple => return { p with luma }
  | .normal =>
    let cb ← Plane.filterMacroblockWithin? plan chroma_room r c (m := 1) p.cb
    let cr ← Plane.filterMacroblockWithin? plan chroma_room r c (m := 1) p.cr
    return { p with luma, cb, cr }

def filterAtWithin? (settings : FilterSettings) (level : Macroblock → Nat) (g : Grid rows cols)
    (r : Fin rows) (p : Picture rows cols) (c : Fin cols) : Option (Picture rows cols) :=
  if level (g.get r c) = 0 then some p
  else p.filterMacroblockWithin? (planAt settings level g r c) r c

def deblockWithin? (settings : FilterSettings) (level : Macroblock → Nat) (g : Grid rows cols)
    (p : Picture rows cols) : Option (Picture rows cols) :=
  if settings.level = 0 then some p
  else Fin.foldlM rows (fun p r => Fin.foldlM cols (filterAtWithin? settings level g r) p) p

theorem filterMacroblockWithin?_eq (plan : EdgePlan) (r : Fin rows) (c : Fin cols)
    (left : plan.leftEdge = true → 0 < c.val) (top : plan.topEdge = true → 0 < r.val)
    (p : Picture rows cols) :
    p.filterMacroblockWithin? plan r c = some (p.filterMacroblock plan r c) := by
  have luma := Plane.filterMacroblockWithin?_eq (m := 3) plan luma_room r c left top p.luma
  have cb := Plane.filterMacroblockWithin?_eq (m := 1) plan chroma_room r c left top p.cb
  have cr := Plane.filterMacroblockWithin?_eq (m := 1) plan chroma_room r c left top p.cr
  unfold filterMacroblockWithin? filterMacroblock
  rw [luma]
  dsimp only [Option.bind_eq_bind, Option.bind_some]
  cases plan.filter with
  | simple => rfl
  | normal =>
    dsimp only
    rw [cb, cr]
    rfl

theorem deblockWithin?_eq (settings : FilterSettings) (level : Macroblock → Nat)
    (g : Grid rows cols) (p : Picture rows cols) :
    p.deblockWithin? settings level g = some (p.deblock settings level g) := by
  unfold deblockWithin? deblock
  split
  · rfl
  · apply foldlM_some
    intro p r
    apply foldlM_some
    intro p c
    unfold filterAtWithin? filterAt
    dsimp only
    split
    · rfl
    · exact filterMacroblockWithin?_eq _ r c of_decide_eq_true of_decide_eq_true p

/-- All that the loop filter reads and writes lies in the picture, and nothing that it makes of the
    picture depends on the border. Of a macroblock at level zero it changes only what is next to a
    neighbour on the right or below at another level, the simple filter changes luma only, and
    where no macroblock has a level nothing changes. -/
theorem deblock_footprint (settings : FilterSettings) (level : Macroblock → Nat)
    (g : Grid rows cols) (p : Picture rows cols) :
    let q := p.deblock settings level g
    p.deblockWithin? settings level g = some q ∧
    (∀ p', AgreeInside p p' → AgreeInside q (p'.deblock settings level g)) ∧
    Plane.Footprint 16 settings.kind.reach (fun r c => level (g.get r c) ≠ 0) p.luma q.luma ∧
    Plane.Footprint 8 settings.kind.reach (fun r c => level (g.get r c) ≠ 0) p.cb q.cb ∧
    Plane.Footprint 8 settings.kind.reach (fun r c => level (g.get r c) ≠ 0) p.cr q.cr ∧
    (settings.kind = .simple → q.cb = p.cb ∧ q.cr = p.cr) ∧
    (settings.level = 0 ∨ (∀ r c, level (g.get r c) = 0) → q = p) :=
  ⟨deblockWithin?_eq settings level g p, fun _ agree => agree.deblock settings level g,
    luma_footprint settings level g p, (chroma_footprint settings level g p).1,
    (chroma_footprint settings level g p).2, fun simple => simple_keeps_chroma simple level g p,
    fun off => level_zero_keeps off p⟩

end Picture

end Vp8
