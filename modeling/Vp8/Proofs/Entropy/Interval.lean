import Mathlib.Data.Nat.ModEq
import Mathlib.Tactic.Ring
import Vp8.Entropy.Writer

/-!
The arithmetic code itself, without windows and registers: every choice narrows an interval, whose
low end is kept as one exact number, and data stands for a run of choices if it lies in the interval
that they lead to.
-/
namespace Vp8

def leadingBytes (data : ByteArray) : Nat → Nat
  | 0 => 0
  | count + 1 => 256 * leadingBytes data count + (BoolReader.byteAt data count).toNat

/-- The number that the first `count` bits form. As many bytes are more than enough. -/
def leadingBits (data : ByteArray) (count : Nat) : Nat :=
  leadingBytes data count / 2 ^ (7 * count)

theorem leadingBytes_add_div (data : ByteArray) (i j : Nat) :
    leadingBytes data (i + j) / 256 ^ j = leadingBytes data i := by
  induction j with
  | zero => simp
  | succ j ih =>
    have byte := (BoolReader.byteAt data (i + j)).toNat_lt
    have step : leadingBytes data (i + (j + 1)) / 256 = leadingBytes data (i + j) := by
      rw [← Nat.add_assoc, leadingBytes]
      omega
    rw [Nat.pow_succ', ← Nat.div_div_eq_div_mul, step, ih]

theorem leadingBytes_congr {data other : ByteArray} {count : Nat}
    (same : ∀ i < count, BoolReader.byteAt data i = BoolReader.byteAt other i) :
    leadingBytes data count = leadingBytes other count := by
  induction count with
  | zero => rfl
  | succ count ih =>
    rw [leadingBytes, leadingBytes, ih fun i inside => same i (by omega), same count (by omega)]

theorem leadingBits_eq (data : ByteArray) {count k : Nat} (enough : count ≤ 8 * k) :
    leadingBits data count = leadingBytes data k / 2 ^ (8 * k - count) := by
  unfold leadingBits
  rcases Nat.le_total k count with le | le
  · obtain ⟨j, rfl⟩ := Nat.exists_eq_add_of_le le
    rw [← leadingBytes_add_div data k j, Nat.div_div_eq_div_mul,
      show (256 : Nat) = 2 ^ 8 from rfl, ← Nat.pow_mul, ← Nat.pow_add]
    congr 2
    omega
  · obtain ⟨j, rfl⟩ := Nat.exists_eq_add_of_le le
    rw [← leadingBytes_add_div data count j, Nat.div_div_eq_div_mul,
      show (256 : Nat) = 2 ^ 8 from rfl, ← Nat.pow_mul, ← Nat.pow_add]
    congr 2
    omega

theorem leadingBits_add_div (data : ByteArray) (m n : Nat) :
    leadingBits data (m + n) / 2 ^ n = leadingBits data m := by
  rw [leadingBits_eq data (show m + n ≤ 8 * (m + n) by omega),
    leadingBits_eq data (show m ≤ 8 * (m + n) by omega), Nat.div_div_eq_div_mul, ← Nat.pow_add]
  congr 2
  omega

theorem renormShift_bounds {range : Nat} (positive : 0 < range) (small : range < 256) :
    renormShift range ≤ 7 ∧ 128 ≤ range * 2 ^ renormShift range ∧
      range * 2 ^ renormShift range < 256 := by
  have nonzero : range ≠ 0 := by omega
  have low := Nat.log2_self_le nonzero
  have high := Nat.lt_log2_self (n := range)
  have top : range.log2 < 8 := (Nat.log2_lt nonzero).mpr small
  obtain ⟨d, hd⟩ := Nat.exists_eq_add_of_le (show range.log2 ≤ 7 by omega)
  have shift : renormShift range = d := by unfold renormShift; omega
  rw [shift]
  have total : 2 ^ range.log2 * 2 ^ d = 128 := by rw [← Nat.pow_add, ← hd]
  refine ⟨by omega, ?_, ?_⟩
  · calc 128 = 2 ^ range.log2 * 2 ^ d := total.symm
      _ ≤ range * 2 ^ d := Nat.mul_le_mul_right _ low
  · calc range * 2 ^ d < 2 ^ (range.log2 + 1) * 2 ^ d :=
          Nat.mul_lt_mul_of_pos_right high (Nat.two_pow_pos d)
      _ = 256 := by rw [Nat.pow_succ', Nat.mul_assoc, total]

theorem splitPoint_bounds {range : Nat} (low : 128 ≤ range) (high : range < 256) (prob : UInt8) :
    0 < splitPoint range prob ∧ splitPoint range prob < range := by
  have byte := prob.toNat_lt
  have part : (range - 1) * prob.toNat / 256 < range - 1 := by
    apply Nat.div_lt_of_lt_mul
    rw [Nat.mul_comm 256]
    exact Nat.mul_lt_mul_of_pos_left byte (by omega)
  unfold splitPoint
  omega

/-- The interval that a run of choices has narrowed down to, exactly. -/
structure Interval where
  /-- Low end, in units of the last doubling. -/
  low : Nat
  range : Nat
  shifts : Nat
  deriving DecidableEq, Repr

namespace Interval

def empty : Interval := ⟨0, 255, 0⟩

def settle (low range shifts : Nat) : Interval :=
  let shift := renormShift range
  ⟨low <<< shift, range <<< shift, shifts + shift⟩

def put (i : Interval) (c : Choice) : Interval :=
  let split := splitPoint i.range c.prob
  if c.bit then settle (i.low + split) (i.range - split) i.shifts
  else settle i.low split i.shifts

def putAll (i : Interval) (cs : List Choice) : Interval := cs.foldl put i

theorem putAll_cons (i : Interval) (c : Choice) (cs : List Choice) :
    i.putAll (c :: cs) = (i.put c).putAll cs := rfl

def remaining (i : Interval) (c : Choice) : Nat :=
  if c.bit then i.range - splitPoint i.range c.prob else splitPoint i.range c.prob

def advance (i : Interval) (c : Choice) : Nat :=
  if c.bit then splitPoint i.range c.prob else 0

theorem settle_low (low range shifts : Nat) :
    (settle low range shifts).low = low <<< renormShift range := rfl

theorem put_eq (i : Interval) (c : Choice) :
    i.put c = settle (i.low + i.advance c) (i.remaining c) i.shifts := by
  unfold put remaining advance
  cases c.bit <;> rfl

def Scaled (i : Interval) : Prop := 128 ≤ i.range ∧ i.range < 256

theorem empty_scaled : Scaled empty := ⟨by decide, by decide⟩

theorem remaining_bounds {i : Interval} (scaled : i.Scaled) (c : Choice) :
    0 < i.remaining c ∧ i.remaining c < 256 ∧ i.advance c + i.remaining c ≤ i.range := by
  obtain ⟨low, high⟩ := scaled
  have split := splitPoint_bounds low high c.prob
  unfold remaining advance
  split <;> omega

theorem put_scaled {i : Interval} (scaled : i.Scaled) (c : Choice) : (i.put c).Scaled := by
  have bounds := remaining_bounds scaled c
  have renorm := renormShift_bounds bounds.1 bounds.2.1
  rw [put_eq]
  unfold Scaled settle
  simp only [Nat.shiftLeft_eq]
  exact renorm.2

def distance (i : Interval) (data : ByteArray) : Nat :=
  (((leadingBits data (i.shifts + 8) : Int) - i.low) % 256).toNat

def Within (i : Interval) (data : ByteArray) : Prop :=
  i.low ≤ leadingBits data (i.shifts + 8) ∧ leadingBits data (i.shifts + 8) < i.low + i.range

/-- Data that lies in what a choice leaves of an interval lies in the interval, and above the split
    point exactly if the choice was `true`. -/
theorem within_of_put {i : Interval} (scaled : i.Scaled) {c : Choice} {data : ByteArray}
    (within : (i.put c).Within data) :
    i.Within data ∧ c.bit = decide (splitPoint i.range c.prob ≤ i.distance data) := by
  have bounds := remaining_bounds scaled c
  have small := scaled.2
  rw [put_eq] at within
  unfold Within settle at within
  simp only [Nat.shiftLeft_eq, ← Nat.add_mul] at within
  rw [show i.shifts + renormShift (i.remaining c) + 8 =
    i.shifts + 8 + renormShift (i.remaining c) by omega] at within
  have above := (Nat.le_div_iff_mul_le (Nat.two_pow_pos _)).mpr within.1
  have below := (Nat.div_lt_iff_lt_mul (Nat.two_pow_pos _)).mpr within.2
  rw [leadingBits_add_div] at above below
  unfold Within distance
  refine ⟨by omega, ?_⟩
  unfold advance remaining at *
  cases bit : c.bit <;> simp only [bit] at above below bounds ⊢ <;>
    simp only [Bool.false_eq_true, ↓reduceIte] at above below bounds
  · exact (decide_eq_false (by omega)).symm
  · exact (decide_eq_true (by omega)).symm

theorem within_of_putAll {i : Interval} (scaled : i.Scaled) {cs : List Choice} {data : ByteArray}
    (within : (i.putAll cs).Within data) : i.Within data := by
  induction cs generalizing i with
  | nil => exact within
  | cons c cs ih => exact (within_of_put scaled (ih (put_scaled scaled c) within)).1

def Inside (i : Interval) : Prop := i.low + i.range ≤ 255 * 2 ^ i.shifts

theorem put_inside {i : Interval} (scaled : i.Scaled) (inside : i.Inside) (c : Choice) :
    (i.put c).Inside := by
  have bounds := (remaining_bounds scaled c).2.2
  unfold Inside at *
  rw [put_eq]
  unfold settle
  simp only [Nat.shiftLeft_eq]
  calc _ = (i.low + (i.advance c + i.remaining c)) * 2 ^ renormShift (i.remaining c) := by ring
    _ ≤ 255 * 2 ^ i.shifts * 2 ^ renormShift (i.remaining c) :=
        Nat.mul_le_mul_right _ (by omega)
    _ = _ := by rw [Nat.mul_assoc, ← Nat.pow_add]

end Interval

end Vp8
