import Vp8.Proofs.Image.Sample

/-!
Planes that agree on a region. What is written to both of them joins the region, and what they are
extended from decides about the whole.
-/
namespace Vp8

abbrev Region := Int → Int → Prop

namespace Plane

variable {width height border w h : Nat} {S T : Region} {p q : Plane width height border}

def Agree (S : Region) (p q : Plane width height border) : Prop :=
  ∀ x y, S x y → p.sample x y = q.sample x y

def Inner (width height : Nat) : Region := fun x y => 0 ≤ x ∧ x < width ∧ 0 ≤ y ∧ y < height

theorem Agree.mono (agree : Agree S p q) (smaller : ∀ x y, T x y → S x y) : Agree T p q := by
  intro x y member
  exact agree x y (smaller x y member)

theorem Agree.ite {p' q' : Plane width height border} {taken : Bool} (agree : Agree S p q)
    (step : taken = true → Agree S p' q') :
    Agree S (if taken then p' else p) (if taken then q' else q) := by
  cases taken with
  | false => exact agree
  | true => exact step rfl

theorem Agree.pixel (agree : Agree S p q) {x y : Int} (member : S x y)
    (inside : Encloses width height border x y 1 1) (holds : Holds width height border x y) :
    p.pixel x y holds = q.pixel x y holds := by
  rw [pixel_eq_sample p inside, pixel_eq_sample q inside]
  exact agree x y member

theorem Agree.set (agree : Agree S p q) {x y : Int} (value : UInt8)
    (inside : Encloses width height border x y 1 1) (holds : Holds width height border x y) :
    Agree S (p.set x y value holds) (q.set x y value holds) := by
  intro u v member
  rw [sample_set p value inside, sample_set q value inside, agree u v member]

theorem Agree.update (agree : Agree S p q) {x y : Int}
    (inside : Encloses width height border x y w h) (covers : Covers width height border x y w h)
    (f : Fin h → Fin w → UInt8 → UInt8) :
    Agree S (p.update x y w h covers f) (q.update x y w h covers f) := by
  intro u v member
  rw [sample_update p inside, sample_update q inside, agree u v member]

theorem Agree.replace (agree : Agree S p q) {x y : Int}
    (inside : Encloses width height border x y w h) (covers : Covers width height border x y w h)
    (f : Fin h → Fin w → UInt8)
    (known : ∀ u v, T u v → S u v ∨ InBlock x y w h u v) :
    Agree T (p.update x y w h covers fun r c _ => f r c)
      (q.update x y w h covers fun r c _ => f r c) := by
  intro u v member
  rw [sample_update p inside, sample_update q inside]
  split
  · rfl
  · rename_i outside
    rcases known u v member with old | new
    · exact agree u v old
    · exact absurd new outside

theorem Agree.store (agree : Agree S p q) {x y : Int} (block : Raster w h)
    (inside : Encloses width height border x y w h) (covers : Covers width height border x y w h)
    (known : ∀ u v, T u v → S u v ∨ InBlock x y w h u v) :
    Agree T (p.store x y block covers) (q.store x y block covers) :=
  agree.replace inside covers _ known

theorem Agree.fill (agree : Agree S p q) {x y : Int} (value : UInt8)
    (inside : Encloses width height border x y w h) (covers : Covers width height border x y w h)
    (known : ∀ u v, T u v → S u v ∨ InBlock x y w h u v) :
    Agree T (p.fill x y w h value covers) (q.fill x y w h value covers) :=
  agree.replace inside covers _ known

def Edges (width height : Nat) : Region := fun x y =>
  (y = -1 ∧ -1 ≤ x ∧ x < width + 4) ∨ (x = -1 ∧ 0 ≤ y ∧ y < height)

theorem setIntraEdges_agree (wide : 4 ≤ border) (p q : Plane width height border)
    (room : EdgeRoom width height border) :
    Agree (Edges width height) (p.setIntraEdges room) (q.setIntraEdges room) := by
  have nothing : Agree (fun _ _ => False) p q := by
    intro x y member
    exact member.elim
  have row := nothing.fill (T := fun x y => y = -1 ∧ -1 ≤ x ∧ x < width + 4) 127
    (by unfold Encloses; omega) room.1 (by intro u v member; unfold InBlock; omega)
  apply row.fill 129 (by unfold Encloses; omega) room.2
  intro u v member
  unfold Edges at member
  unfold InBlock
  omega

theorem Agree.extendRowRight (agree : Agree S p q) {y : Int} (wide : 4 ≤ border)
    (row : 0 ≤ y ∧ y < height) (last : S (width - 1) y)
    (room : Covers width height border (width - 1) y 5 1)
    (known : ∀ u v, T u v → S u v ∨ v = y ∧ width ≤ u ∧ u < width + 4) :
    Agree T (p.extendRowRight y room) (q.extendRowRight y room) := by
  unfold Plane.extendRowRight
  dsimp only
  rw [agree.pixel last (by unfold Encloses; omega)]
  apply agree.fill _ (by unfold Encloses; omega) room
  intro u v member
  rcases known u v member with old | new
  · exact .inl old
  · right
    unfold InBlock
    omega

theorem Agree.extend (agree : Agree (Inner width height) p q) (visible : Visible width height) :
    p.extend = q.extend := by
  unfold Plane.extend
  congr 1
  funext x y inside
  have row : sourceRow height y < height ∧ 0 ≤ sourceRow height y := by
    unfold sourceRow
    omega
  have column : 0 ≤ sourceColumn width x ∧ sourceColumn width x < width := by
    unfold sourceColumn
    split
    · omega
    · split <;> omega
  rw [if_pos row.1, if_pos row.1]
  apply agree.pixel ⟨column.1, column.2, row.2, row.1⟩
  exact inside.source.2

end Plane

namespace Picture

variable {rows cols : Nat} {p q : Picture rows cols}

structure Agree (S T : Region) (p q : Picture rows cols) : Prop where
  luma : p.luma.Agree S q.luma
  cb : p.cb.Agree T q.cb
  cr : p.cr.Agree T q.cr
  damaged : p.damaged = q.damaged

def AgreeInside (p q : Picture rows cols) : Prop :=
  Agree (Plane.Inner (16 * cols) (16 * rows)) (Plane.Inner (8 * cols) (8 * rows)) p q

theorem AgreeInside.extend (agree : AgreeInside p q) (visible : 0 < rows ∧ 0 < cols) :
    p.extend = q.extend := by
  unfold Picture.extend
  rw [agree.luma.extend ⟨by omega, by omega⟩, agree.cb.extend ⟨by omega, by omega⟩,
    agree.cr.extend ⟨by omega, by omega⟩, agree.damaged]

end Picture

end Vp8
