import Vp8.Proofs.Image.Agreement

/-!
Planes that go on over their border. To continue a plane leaves the picture inside alone, so it makes
no difference to a plane that was continued before, nor to one that holds nothing yet.
-/
namespace Vp8

namespace Plane

variable {width height border : Nat}

theorem offset_place (width border i : Nat) :
    offset width border ((i % (width + 2 * border) : Nat) - border)
      ((i / (width + 2 * border) : Nat) - border) = i := by
  unfold offset
  rw [Int.sub_add_cancel, Int.sub_add_cancel, Int.toNat_natCast, Int.toNat_natCast, Nat.mul_comm]
  exact Nat.div_add_mod _ _

theorem get_eq_sample (p : Plane width height border) {i : Nat} (inside : i < p.bytes.size) :
    p.bytes.get i inside = p.sample ((i % (width + 2 * border) : Nat) - border)
      ((i / (width + 2 * border) : Nat) - border) := by
  have at_place {j : Nat} (same : j = i) (held : j < p.bytes.size) :
      p.bytes.get i inside = p.bytes.get j held := by
    subst same
    rfl
  unfold sample
  rw [dif_pos (encloses_of_lt (Nat.lt_of_lt_of_eq inside p.size_eq))]
  exact at_place (offset_place width border i) _

theorem ext_sample {p q : Plane width height border} (same : ∀ x y, p.sample x y = q.sample x y) :
    p = q := by
  have bytes : p.bytes = q.bytes := by
    apply ByteArray.ext
    apply Array.ext (p.size_eq.trans q.size_eq.symm)
    intro i left right
    exact (p.get_eq_sample left).trans ((same _ _).trans (q.get_eq_sample right).symm)
  cases p
  cases q
  cases bytes
  rfl

theorem sample_ofFn (f : (x y : Int) → Encloses width height border x y 1 1 → UInt8) {x y : Int}
    (inside : Encloses width height border x y 1 1) : (ofFn f).sample x y = f x y inside := by
  have wide : 0 < width + 2 * border := by unfold Encloses at inside; omega
  have column : (x + border).toNat < width + 2 * border := by unfold Encloses at inside; omega
  have col : ((offset width border x y % (width + 2 * border) : Nat) : Int) - border = x := by
    unfold offset
    rw [Nat.mul_comm, Nat.mul_add_mod, Nat.mod_eq_of_lt column]
    unfold Encloses at inside
    omega
  have row : ((offset width border x y / (width + 2 * border) : Nat) : Int) - border = y := by
    unfold offset
    rw [Nat.mul_comm, Nat.mul_add_div wide, Nat.div_eq_of_lt column]
    unfold Encloses at inside
    omega
  have place (u v : Int) (there : Encloses width height border u v 1 1) (hu : u = x) (hv : v = y) :
      f u v there = f x y inside := by
    subst hu hv
    rfl
  unfold sample
  rw [dif_pos inside]
  exact (Array.getElem_ofFn _).trans (place _ _ _ col row)

theorem extended_eq_sample (p : Plane width height border) (visible : Visible width height)
    (x y : Int) :
    p.extended visible x y = p.sample (clampCoordinate width x) (clampCoordinate height y) := by
  have column := clampCoordinate_bounds visible.1 x
  have row := clampCoordinate_bounds visible.2 y
  exact pixel_eq_sample p (by unfold Encloses; omega) _

theorem extended_inner (p : Plane width height border) (visible : Visible width height) {x y : Int}
    (inner : Inner width height x y) : p.extended visible x y = p.sample x y := by
  unfold Inner at inner
  rw [extended_eq_sample]
  congr 1
  all_goals
    unfold clampCoordinate saturate
    omega

/-- Every byte of a continued plane is the nearest pixel of the picture. -/
theorem sample_extend_nearest (p : Plane width height border) (visible : Visible width height)
    {x y : Int} (inside : Encloses width height border x y 1 1) :
    p.extend.sample x y = p.extended visible x y := by
  have row : sourceRow height y = clampCoordinate height y := by
    unfold sourceRow clampCoordinate saturate
    omega
  have column : sourceColumn width x = clampCoordinate width x := by
    unfold sourceColumn clampCoordinate saturate
    split
    · omega
    · split <;> omega
  have below := (clampCoordinate_bounds visible.2 y).2
  unfold extend
  rw [sample_ofFn _ inside]
  simp only [row, column]
  rw [if_pos below]
  rfl

theorem sample_extend (p : Plane width height border) {x y : Int} (inner : Inner width height x y) :
    p.extend.sample x y = p.sample x y := by
  have inside : Encloses width height border x y 1 1 := by
    unfold Inner at inner
    unfold Encloses
    omega
  have row : sourceRow height y = y := by
    unfold Inner at inner
    unfold sourceRow
    omega
  have column : sourceColumn width x = x := by
    unfold Inner at inner
    unfold sourceColumn
    rw [if_neg (by omega), if_neg (by omega)]
  unfold extend
  rw [sample_ofFn _ inside]
  simp only [row, column]
  rw [if_pos inner.2.2.2]
  exact pixel_eq_sample p inside _

/-- A plane continued once stays as it is. -/
theorem extend_extend (p : Plane width height border) (visible : Visible width height) :
    p.extend.extend = p.extend := by
  have agree : Agree (Inner width height) p.extend p := fun _ _ inner => p.sample_extend inner
  exact agree.extend visible

theorem pixel_blank {x y : Int} (inside : Holds width height border x y) :
    (blank width height border).pixel x y inside = 0 :=
  Array.getElem_replicate _

theorem extend_blank : (blank width height border).extend = blank width height border := by
  apply ext_sample
  intro x y
  by_cases inside : Encloses width height border x y 1 1
  · unfold extend
    rw [sample_ofFn _ inside, ← pixel_eq_sample _ inside inside.holds]
    split <;> rw [pixel_blank, pixel_blank]
  · unfold sample
    rw [dif_neg inside, dif_neg inside]

end Plane

namespace Picture

variable {rows cols : Nat}

structure Continued (p : Picture rows cols) : Prop where
  luma : p.luma.extend = p.luma
  cb : p.cb.extend = p.cb
  cr : p.cr.extend = p.cr

theorem blank_continued : Continued (blank rows cols) :=
  ⟨Plane.extend_blank, Plane.extend_blank, Plane.extend_blank⟩

theorem extend_continued (p : Picture rows cols) (visible : 0 < rows ∧ 0 < cols) :
    p.extend.Continued :=
  ⟨p.luma.extend_extend ⟨by omega, by omega⟩, p.cb.extend_extend ⟨by omega, by omega⟩,
    p.cr.extend_extend ⟨by omega, by omega⟩⟩

end Picture

end Vp8
