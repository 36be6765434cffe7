import Mathlib.Tactic.Ring
import Vp8.Image.Picture
import Vp8.Proofs.Loops

/-!
Reading a plane after writing to it, position by position.
-/
namespace Vp8

theorem get_set (bytes : ByteArray) (i j : Nat) (value : UInt8) (hi : i < bytes.size)
    (hj : j < (bytes.set i value hi).size) (lt : j < bytes.size) :
    (bytes.set i value hi).get j hj = if i = j then value else bytes.get j lt := by
  exact Array.getElem_set hi hj

theorem row_unique {stride r s c d : Nat} (left : c < stride) (right : d < stride)
    (same : r * stride + c = s * stride + d) : r = s := by
  rcases Nat.lt_trichotomy r s with lt | eq | lt
  · have := Nat.mul_le_mul_right stride (Nat.succ_le_of_lt lt)
    rw [Nat.succ_mul] at this
    omega
  · exact eq
  · have := Nat.mul_le_mul_right stride (Nat.succ_le_of_lt lt)
    rw [Nat.succ_mul] at this
    omega

section Block

variable {bytes : ByteArray} {start stride w h : Nat}

def byteOf (bytes : ByteArray) {i : Nat} (lt : i < bytes.size)
    (out : { out : ByteArray // out.size = bytes.size }) : UInt8 :=
  out.val.get i (out.property.symm ▸ lt)

theorem byteOf_set {i : Nat} (lt : i < bytes.size)
    (out : { out : ByteArray // out.size = bytes.size }) (j : Nat) (value : UInt8)
    (hj : j < out.val.size) (size : (out.val.set j value hj).size = bytes.size) :
    byteOf bytes lt ⟨out.val.set j value hj, size⟩ = if j = i then value else byteOf bytes lt out :=
  get_set _ _ _ _ _ _ _

theorem updateBlock_outside (inside : Spans bytes.size start stride w h)
    (f : Fin h → Fin w → UInt8 → UInt8) {i : Nat} (lt : i < bytes.size)
    (other : ∀ (r : Fin h) (c : Fin w), start + r.val * stride + c.val ≠ i) :
    byteOf bytes lt (updateBlock bytes start stride w h inside f) = bytes.get i lt := by
  unfold updateBlock
  apply foldl_keeps (byteOf bytes lt)
  intro out r
  apply foldl_keeps (byteOf bytes lt)
  intro out c
  apply (byteOf_set lt out _ _ _ _).trans
  exact if_neg (other r c)

theorem updateBlock_inside (narrow : w ≤ stride) (inside : Spans bytes.size start stride w h)
    (f : Fin h → Fin w → UInt8 → UInt8) {i : Nat} (lt : i < bytes.size) (r : Fin h) (c : Fin w)
    (place : start + r.val * stride + c.val = i) :
    byteOf bytes lt (updateBlock bytes start stride w h inside f) = f r c (bytes.get i lt) := by
  unfold updateBlock
  apply foldl_once (byteOf bytes lt) (f r c) r
  · intro out
    apply foldl_once (byteOf bytes lt) (f r c) c
    · intro out
      subst place
      apply (byteOf_set lt out _ _ _ _).trans
      rw [if_pos rfl]
      rfl
    · intro out k other
      apply (byteOf_set lt out _ _ _ _).trans
      apply if_neg
      intro same
      apply other
      apply Fin.ext
      omega
  · intro out k other
    apply foldl_keeps (byteOf bytes lt)
    intro out j
    apply (byteOf_set lt out _ _ _ _).trans
    apply if_neg
    -- rows of at most the stride's length do not meet
    intro same
    apply other
    apply Fin.ext
    have left := j.isLt
    have right := c.isLt
    have equal : k.val * stride + j.val = r.val * stride + c.val := by omega
    exact row_unique (by omega) (by omega) equal

end Block

namespace Plane

variable {width height border : Nat}

/-- The pixel at a position, and zero beyond the border. -/
def sample (p : Plane width height border) (x y : Int) : UInt8 :=
  if inside : Encloses width height border x y 1 1 then p.pixel x y inside.holds else 0

theorem pixel_eq_sample (p : Plane width height border) {x y : Int}
    (inside : Encloses width height border x y 1 1) (holds : Holds width height border x y) :
    p.pixel x y holds = p.sample x y := by
  unfold sample
  rw [dif_pos inside]

theorem offset_inj {x y u v : Int} (first : Encloses width height border x y 1 1)
    (second : Encloses width height border u v 1 1)
    (same : offset width border x y = offset width border u v) : x = u ∧ y = v := by
  unfold offset at same
  unfold Encloses at first second
  have row := row_unique (by omega) (by omega) same
  rw [row] at same
  omega

theorem sample_set (p : Plane width height border) {x y : Int} (value : UInt8)
    (inside : Encloses width height border x y 1 1) (holds : Holds width height border x y)
    (u v : Int) :
    (p.set x y value holds).sample u v = if u = x ∧ v = y then value else p.sample u v := by
  unfold sample
  by_cases here : Encloses width height border u v 1 1
  · rw [dif_pos here, dif_pos here]
    unfold pixel set
    rw [get_set]
    by_cases same : u = x ∧ v = y
    · rw [if_pos same, if_pos]
      rw [same.1, same.2]
    · rw [if_neg same, if_neg]
      intro equal
      have place := offset_inj inside here equal
      exact same ⟨place.1.symm, place.2.symm⟩
  · rw [dif_neg here, dif_neg here, if_neg]
    rintro ⟨rfl, rfl⟩
    exact here inside

abbrev InBlock (x y : Int) (w h : Nat) (u v : Int) : Prop := x ≤ u ∧ u < x + w ∧ y ≤ v ∧ v < y + h

theorem sample_update (p : Plane width height border) {x y : Int} {w h : Nat}
    (inside : Encloses width height border x y w h) (covers : Covers width height border x y w h)
    (f : Fin h → Fin w → UInt8 → UInt8) (u v : Int) :
    (p.update x y w h covers f).sample u v =
      if block : InBlock x y w h u v then
        f ⟨(v - y).toNat, by omega⟩ ⟨(u - x).toNat, by omega⟩ (p.sample u v)
      else p.sample u v := by
  by_cases here : Encloses width height border u v 1 1
  · have lt : offset width border u v < p.bytes.size := p.size_eq.symm ▸ offset_lt here
    have before : p.sample u v = p.bytes.get (offset width border u v) lt := by
      unfold sample
      rw [dif_pos here]
      rfl
    have after : (p.update x y w h covers f).sample u v = byteOf p.bytes lt
        (updateBlock p.bytes (offset width border x y) (width + 2 * border) w h
          (p.size_eq ▸ covers.2.2) f) := by
      unfold sample
      rw [dif_pos here]
      rfl
    rw [after, before]
    by_cases block : InBlock x y w h u v
    · rw [dif_pos block]
      apply updateBlock_inside
      · unfold Encloses at inside
        omega
      · rw [← offset_add inside.1 inside.2.2.1]
        congr 1 <;> dsimp only <;> omega
    · rw [dif_neg block]
      apply updateBlock_outside
      intro r c same
      apply block
      rw [← offset_add inside.1 inside.2.2.1] at same
      have left := r.isLt
      have right := c.isLt
      have place : Encloses width height border (x + c) (y + r) 1 1 := by
        unfold Encloses at inside ⊢
        omega
      have equal := offset_inj place here same
      omega
  · have outside : ¬ InBlock x y w h u v := by
      intro block
      apply here
      unfold Encloses at inside ⊢
      omega
    rw [dif_neg outside]
    unfold sample
    rw [dif_neg here, dif_neg here]

end Plane

end Vp8
