import Mathlib.Data.Nat.Basic

/-!
The blocks of a whole picture. Every macroblock is a square of `n` by `n` blocks; counted from the
corner of the picture, the blocks of all macroblocks form one lattice, where the neighbours of a
block may belong to another macroblock or lie outside.
-/
namespace Vp8

section Prior

variable {n : Nat}

theorem prior_lt (i : Fin n) : i.val - 1 < n := Nat.lt_of_le_of_lt (Nat.sub_le _ _) i.isLt

theorem final_lt (i : Fin n) : n - 1 < n := Nat.sub_one_lt_of_lt i.isLt

theorem prior_inside {k : Nat} (inside : 0 < k ∧ k ≤ n) : k - 1 < n := by omega

def prior (i : Fin n) : Fin n := ⟨i - 1, prior_lt i⟩

def final (i : Fin n) : Fin n := ⟨n - 1, final_lt i⟩

end Prior

/-- A value for every block of every macroblock. -/
abbrev Squares (rows cols n : Nat) (α : Type) := Fin rows → Fin cols → Fin n → Fin n → α

namespace Squares

variable {rows cols n : Nat} {α : Type}

theorem side_pos {y : Nat} (inside : y < n * rows) : 0 < n :=
  Nat.pos_of_ne_zero fun none => by simp [none] at inside

def block (f : Squares rows cols n α) (outside : α) (y x : Nat) : α :=
  if h : y < n * rows ∧ x < n * cols then
    f ⟨y / n, Nat.div_lt_of_lt_mul h.1⟩ ⟨x / n, Nat.div_lt_of_lt_mul h.2⟩
      ⟨y % n, Nat.mod_lt _ (side_pos h.1)⟩ ⟨x % n, Nat.mod_lt _ (side_pos h.2)⟩
  else outside

def above (f : Squares rows cols n α) (outside : α) (y x : Nat) : α :=
  if y = 0 then outside else f.block outside (y - 1) x

def left (f : Squares rows cols n α) (outside : α) (y x : Nat) : α :=
  if x = 0 then outside else f.block outside y (x - 1)

theorem place_div {r y : Nat} (inside : y < n) : (n * r + y) / n = r := by
  rw [Nat.mul_add_div (by omega), Nat.div_eq_of_lt inside, Nat.add_zero]

theorem place_lt {r : Fin rows} {y : Nat} (inside : y < n) : n * r.val + y < n * rows := by
  have row := Nat.mul_le_mul_left n (Nat.succ_le_of_lt r.isLt)
  rw [Nat.mul_succ] at row
  omega

theorem block_eq (f : Squares rows cols n α) (outside : α) (r : Fin rows) (c : Fin cols)
    (y x : Fin n) : f.block outside (n * r + y) (n * c + x) = f r c y x := by
  simp [block, place_lt, place_div, Nat.mod_eq_of_lt]

/-- One step back from the first block of a macroblock leads to the last one before it. -/
theorem place_back {r : Nat} (later : 0 < r) (side : 0 < n) :
    n * r - 1 = n * (r - 1) + (n - 1) := by
  obtain ⟨r, rfl⟩ := Nat.exists_eq_add_of_lt later
  rw [Nat.zero_add, Nat.add_sub_cancel, Nat.mul_succ]
  omega

theorem above_eq (f : Squares rows cols n α) (outside : α) (r : Fin rows) (c : Fin cols)
    (y x : Fin n) :
    f.above outside (n * r + y) (n * c + x) =
      if 0 < y.val then f r c (prior y) x
      else if 0 < r.val then f (prior r) c (final y) x
      else outside := by
  unfold above
  split_ifs with first inner later inner later
  · omega
  · have none := Nat.mul_pos (show 0 < n by omega) later
    omega
  · rfl
  · rw [Nat.add_sub_assoc inner]
    exact f.block_eq outside r c (prior y) x
  · rw [Nat.eq_zero_of_not_pos inner, Nat.add_zero, place_back later (by omega)]
    exact f.block_eq outside (prior r) c (final y) x
  · rw [Nat.eq_zero_of_not_pos later, Nat.eq_zero_of_not_pos inner] at first
    simp at first

def transposed (f : Squares rows cols n α) : Squares cols rows n α := fun c r x y => f r c y x

theorem block_transposed (f : Squares rows cols n α) (outside : α) (y x : Nat) :
    f.transposed.block outside x y = f.block outside y x := by
  simp only [block, transposed, and_comm]

theorem left_eq (f : Squares rows cols n α) (outside : α) (r : Fin rows) (c : Fin cols)
    (y x : Fin n) :
    f.left outside (n * r + y) (n * c + x) =
      if 0 < x.val then f r c y (prior x)
      else if 0 < c.val then f r (prior c) y (final x)
      else outside := by
  unfold left
  rw [← block_transposed]
  exact f.transposed.above_eq outside c r x y

end Squares

end Vp8
