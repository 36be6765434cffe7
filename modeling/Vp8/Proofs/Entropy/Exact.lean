import Mathlib.Algebra.BigOperators.Intervals
import Mathlib.Algebra.Order.BigOperators.Group.Finset
import Mathlib.Data.Rat.Floor
import Mathlib.Order.Lattice.Nat
import Mathlib.Tactic.FieldSimp
import Mathlib.Tactic.Linarith
import Vp8.Proofs.Entropy.Window

/-!
The arithmetic decoder on paper, which holds the rest of its data as one exact fraction. The reader
with its window of 64 bits reads the same bits, however often it refills the window and however far
it goes beyond the end of the data. Unless the first byte is 255 the fraction stays below the range,
and no bit that is set is ever pushed out of the window.
-/
namespace Vp8

section Bits

variable {σ : Type}

def readBits (read : σ → UInt8 → Bool × σ) : List UInt8 → σ → List Bool × σ
  | [], s => ([], s)
  | prob :: probs, s =>
    let (bit, s) := read s prob
    let (bits, s) := readBits read probs s
    (bit :: bits, s)

theorem readBits_cons (read : σ → UInt8 → Bool × σ) (prob : UInt8) (probs : List UInt8) (s : σ) :
    readBits read (prob :: probs) s =
      ((read s prob).1 :: (readBits read probs (read s prob).2).1,
        (readBits read probs (read s prob).2).2) := rfl

end Bits

structure ExactReader where
  range : Nat
  /-- What is left of the data, counted from the active byte on. -/
  value : ℚ
  shifts : Nat

namespace ExactReader

/-- The data as a number whose whole part is its first byte. -/
def fraction (data : ByteArray) : ℚ :=
  ∑ i ∈ Finset.range data.size, (BoolReader.byteAt data i).toNat / 256 ^ i

def ofBytes (data : ByteArray) : ExactReader := ⟨255, fraction data, 0⟩

def reduce (x : ℚ) : ℚ := x - 256 * ⌊x / 256⌋

noncomputable def doublings (range : Nat) : Nat := sInf {s | 128 ≤ range * 2 ^ s}

def cut (m : ExactReader) (prob : UInt8) : Cut ℚ :=
  let split := 1 + (m.range - 1) * prob.toNat / 256
  if (split : ℚ) ≤ m.value then ⟨true, m.range - split, m.value - split⟩
  else ⟨false, split, m.value⟩

noncomputable def read (m : ExactReader) (prob : UInt8) : Bool × ExactReader :=
  let kept := m.cut prob
  let s := doublings kept.range
  (kept.bit, ⟨kept.range * 2 ^ s, reduce (kept.rest * 2 ^ s), m.shifts + s⟩)

/-- The doublings of the next read take the value beyond a byte, so that it has to be reduced. -/
def Overflows (m : ExactReader) (prob : UInt8) : Prop :=
  256 ≤ (m.cut prob).rest * 2 ^ doublings (m.cut prob).range

theorem cut_eq (m : ExactReader) (prob : UInt8) :
    m.cut prob =
      if (splitPoint m.range prob : ℚ) ≤ m.value then
        ⟨true, m.range - splitPoint m.range prob, m.value - splitPoint m.range prob⟩
      else ⟨false, splitPoint m.range prob, m.value⟩ := rfl

theorem reduce_congr {x y : ℚ} (k : ℤ) (same : x = y + 256 * k) : reduce x = reduce y := by
  have whole : ⌊x / 256⌋ = ⌊y / 256⌋ + k := by
    rw [← Int.floor_add_intCast, same]
    congr 1
    ring
  unfold reduce
  rw [whole, same]
  push_cast
  ring

theorem reduce_of_lt {x : ℚ} (low : 0 ≤ x) (high : x < 256) : reduce x = x := by
  have none : ⌊x / 256⌋ = 0 := by
    rw [Int.floor_eq_zero_iff, Set.mem_Ico]
    constructor <;> linarith
  simp [reduce, none]

theorem floor_reduce (x : ℚ) : ⌊reduce x⌋ = ⌊x⌋ % 256 := by
  have parts : ⌊x / 256⌋ = ⌊x⌋ / 256 := Int.floor_div_natCast x 256
  have shift : reduce x = x - (256 * (⌊x⌋ / 256) : ℤ) := by
    unfold reduce
    rw [parts]
    push_cast
    ring
  rw [shift, Int.floor_sub_intCast, Int.emod_def]

theorem doublings_eq {range : Nat} (positive : 0 < range) (small : range < 256) :
    doublings range = renormShift range := by
  obtain ⟨_, low, high⟩ := renormShift_bounds positive small
  apply le_antisymm
  · exact Nat.sInf_le low
  · have some : {s | 128 ≤ range * 2 ^ s}.Nonempty := ⟨_, low⟩
    apply le_csInf some
    intro s enough
    by_contra fewer
    -- one doubling more would still stay below 256
    have more : 2 ^ (s + 1) ≤ 2 ^ renormShift range := Nat.pow_le_pow_right (by decide) (by omega)
    have := Nat.mul_le_mul_left range more
    rw [Nat.pow_succ, ← Nat.mul_assoc] at this
    have : 128 ≤ range * 2 ^ s := enough
    omega

theorem fraction_eq_sum {data : ByteArray} {n : Nat} (enough : data.size ≤ n) :
    fraction data = ∑ i ∈ Finset.range n, ((BoolReader.byteAt data i).toNat : ℚ) / 256 ^ i := by
  apply Finset.sum_subset
  · simpa using enough
  · intro i _ beyond
    have outside : ¬ i < data.size := by simpa using beyond
    simp [BoolReader.byteAt, outside]

theorem leadingBytes_eq_sum (data : ByteArray) (n : Nat) :
    (leadingBytes data n : ℚ) * 256 =
      (∑ i ∈ Finset.range n, ((BoolReader.byteAt data i).toNat : ℚ) / 256 ^ i) * 256 ^ n := by
  induction n with
  | zero => simp [leadingBytes]
  | succ n ih =>
    rw [Finset.sum_range_succ, add_mul, pow_succ, ← mul_assoc, ← ih, leadingBytes]
    push_cast
    field_simp

theorem fraction_nonneg (data : ByteArray) : 0 ≤ fraction data := by
  apply Finset.sum_nonneg
  intro i _
  positivity

theorem floor_fraction (data : ByteArray) (shifts : Nat) :
    ⌊fraction data * 2 ^ shifts⌋ = leadingBits data (shifts + 8) := by
  have enough : shifts + 8 ≤ 8 * (data.size + shifts + 1) := by omega
  have scaled : fraction data * 2 ^ shifts = (leadingBytes data (data.size + shifts + 1) : ℚ) /
      ((2 ^ (8 * (data.size + shifts + 1) - (shifts + 8)) : Nat) : ℚ) := by
    have bytes := leadingBytes_eq_sum data (data.size + shifts + 1)
    rw [← fraction_eq_sum (by omega)] at bytes
    have split : (256 : ℚ) ^ (data.size + shifts + 1) =
        2 ^ (8 * (data.size + shifts + 1) - (shifts + 8)) * 2 ^ shifts * 256 := by
      rw [show (256 : ℚ) = 2 ^ 8 by norm_num, ← pow_mul, ← pow_add, ← pow_add]
      congr 1
      omega
    push_cast
    rw [eq_div_iff (by positivity)]
    have cancelled : (256 : ℚ) ≠ 0 := by norm_num
    apply mul_right_cancel₀ cancelled
    rw [bytes, split]
    ring
  rw [scaled, Rat.floor_natCast_div_natCast, leadingBits_eq data enough, Int.natCast_ediv]

theorem floor_fraction_first (data : ByteArray) :
    ⌊fraction data⌋ = (BoolReader.byteAt data 0).toNat := by
  have first := floor_fraction data 0
  simpa [leadingBits_eq data (k := 1), leadingBytes] using first

structure Below (m : ExactReader) : Prop where
  scaled : 128 ≤ m.range ∧ m.range < 256
  nonneg : 0 ≤ m.value
  below : m.value < m.range

theorem ofBytes_below {data : ByteArray} (first : BoolReader.byteAt data 0 ≠ 255) :
    (ofBytes data).Below where
  scaled := by simp [ofBytes]
  nonneg := fraction_nonneg data
  below := by
    have byte := (BoolReader.byteAt data 0).toNat_lt
    have other : (BoolReader.byteAt data 0).toNat ≠ 255 :=
      fun same => first (UInt8.toNat_inj.mp same)
    have small : ⌊fraction data⌋ < (255 : ℤ) := by
      rw [floor_fraction_first]
      omega
    exact_mod_cast Int.floor_lt.mp small

section Below

variable {m : ExactReader} (below : m.Below) (prob : UInt8)

include below

/-- On both sides of the split point the value stays below what is left of the range. -/
theorem Below.cut :
    0 < (m.cut prob).range ∧ (m.cut prob).range < 256 ∧ 0 ≤ (m.cut prob).rest ∧
      (m.cut prob).rest < (m.cut prob).range := by
  obtain ⟨scaled, nonneg, small⟩ := below
  have split := splitPoint_bounds scaled.1 scaled.2 prob
  rw [cut_eq]
  split
  · rename_i above
    dsimp only
    refine ⟨by omega, by omega, by linarith, ?_⟩
    rw [Nat.cast_sub split.2.le]
    linarith
  · rename_i under
    dsimp only
    exact ⟨split.1, by omega, nonneg, not_le.mp under⟩

theorem Below.doubled :
    (m.cut prob).rest * 2 ^ doublings (m.cut prob).range <
      ((m.cut prob).range * 2 ^ doublings (m.cut prob).range : Nat) := by
  obtain ⟨_, _, _, small⟩ := below.cut prob
  push_cast
  exact mul_lt_mul_of_pos_right small (by positivity)

theorem Below.range :
    128 ≤ (m.cut prob).range * 2 ^ doublings (m.cut prob).range ∧
      (m.cut prob).range * 2 ^ doublings (m.cut prob).range < 256 := by
  obtain ⟨positive, small, _, _⟩ := below.cut prob
  rw [doublings_eq positive small]
  exact (renormShift_bounds positive small).2

theorem Below.not_overflows : ¬ m.Overflows prob := by
  have value := below.doubled prob
  have byte : (((m.cut prob).range * 2 ^ doublings (m.cut prob).range : Nat) : ℚ) < 256 := by
    exact_mod_cast (below.range prob).2
  unfold Overflows
  linarith

theorem Below.read : (m.read prob).2.Below := by
  obtain ⟨_, _, nonneg, _⟩ := below.cut prob
  have kept : 0 ≤ (m.cut prob).rest * 2 ^ doublings (m.cut prob).range := by positivity
  unfold ExactReader.read
  dsimp only
  rw [reduce_of_lt kept (not_le.mp (below.not_overflows prob))]
  exact ⟨below.range prob, kept, below.doubled prob⟩

end Below

end ExactReader

namespace Interval

def exact (i : Interval) (data : ByteArray) : ExactReader where
  range := i.range
  value := ExactReader.reduce (ExactReader.fraction data * 2 ^ i.shifts - i.low)
  shifts := i.shifts

@[simp] theorem exact_range (i : Interval) (data : ByteArray) :
    (i.exact data).range = i.range := rfl

theorem empty_exact (data : ByteArray) : empty.exact data = ExactReader.ofBytes data := by
  have byte := (BoolReader.byteAt data 0).toNat_lt
  have small : ⌊ExactReader.fraction data⌋ < (256 : ℤ) := by
    rw [ExactReader.floor_fraction_first]
    omega
  have below : ExactReader.fraction data < (256 : ℤ) := Int.floor_lt.mp small
  unfold exact empty ExactReader.ofBytes
  congr 1
  simpa using ExactReader.reduce_of_lt (ExactReader.fraction_nonneg data) below

theorem distance_eq (i : Interval) (data : ByteArray) :
    (i.distance data : ℤ) = ⌊(i.exact data).value⌋ := by
  unfold exact distance
  dsimp only
  rw [ExactReader.floor_reduce, Int.floor_sub_natCast, ExactReader.floor_fraction]
  omega

theorem split_le_iff (i : Interval) (data : ByteArray) (split : Nat) :
    (split : ℚ) ≤ (i.exact data).value ↔ split ≤ i.distance data := by
  have whole : ((split : ℤ) : ℚ) ≤ (i.exact data).value ↔ (split : ℤ) ≤ i.distance data := by
    rw [distance_eq, Int.le_floor]
  exact_mod_cast whole

section Step

variable {i : Interval} {data : ByteArray} {prob : UInt8} {bit : Bool}

theorem cut_exact (taken : bit = decide (splitPoint i.range prob ≤ i.distance data)) :
    (i.exact data).cut prob =
      ⟨bit, i.remaining ⟨prob, bit⟩, (i.exact data).value - i.advance ⟨prob, bit⟩⟩ := by
  have split := i.split_le_iff data (splitPoint i.range prob)
  rw [ExactReader.cut_eq, exact_range]
  cases bit with
  | false =>
    rw [if_neg (mt split.mp (of_decide_eq_false taken.symm))]
    simp [remaining, advance]
  | true =>
    rw [if_pos (split.mpr (of_decide_eq_true taken.symm))]
    simp [remaining, advance]

theorem read_exact (scaled : i.Scaled)
    (taken : bit = decide (splitPoint i.range prob ≤ i.distance data)) :
    (i.exact data).read prob = (bit, (i.put ⟨prob, bit⟩).exact data) := by
  obtain ⟨positive, small, _⟩ := remaining_bounds scaled ⟨prob, bit⟩
  unfold ExactReader.read
  rw [cut_exact taken, put_eq]
  dsimp only
  rw [ExactReader.doublings_eq positive small]
  generalize i.remaining ⟨prob, bit⟩ = range
  generalize i.advance ⟨prob, bit⟩ = step
  -- the multiples of 256 that the value has lost are still multiples after the doublings
  have value : ExactReader.reduce (((i.exact data).value - step) * 2 ^ renormShift range) =
      ((settle (i.low + step) range i.shifts).exact data).value := by
    apply ExactReader.reduce_congr
      (-⌊(ExactReader.fraction data * 2 ^ i.shifts - i.low) / 256⌋ * 2 ^ renormShift range)
    simp only [exact, settle, ExactReader.reduce, Nat.shiftLeft_eq, pow_add]
    push_cast
    ring
  rw [value]
  simp [exact, settle, Nat.shiftLeft_eq]

end Step

end Interval

namespace BoolReader

/-- The shift of the next read pushes a bit out of the window that is set. -/
def Drops (r : BoolReader) (prob : UInt8) : Prop :=
  2 ^ 64 ≤ (r.cut prob).rest.toNat * 2 ^ renormShift (r.cut prob).range

variable {r : BoolReader} {i : Interval}

theorem cut_below (m : Mirrors r i) (prob : UInt8) (below : i.distance r.data < i.range) :
    0 < (r.cut prob).range ∧ (r.cut prob).range < 256 ∧
      (r.cut prob).rest.toNat < (r.cut prob).range * 2 ^ 56 := by
  obtain ⟨mirrors, full, data⟩ := ready_mirrors m
  have split := splitPoint_bounds m.scaled.1 m.scaled.2 prob
  have small := m.scaled.2
  have active := active_byte mirrors full
  rw [data] at active
  have bound : ((splitPoint i.range prob).toUInt64 <<< 56).toNat =
      splitPoint i.range prob * 2 ^ 56 := by
    rw [show (56 : UInt64) = Nat.toUInt64 56 from rfl, shiftLeft_toNat _ (by decide), Nat.toUInt64,
      UInt64.toNat_ofNat']
    omega
  unfold cut
  rw [mirrors.range_eq]
  dsimp only
  split
  · rename_i above
    rw [UInt64.toNat_sub_of_le _ _ above, bound]
    dsimp only
    omega
  · rename_i under
    rw [UInt64.le_iff_toNat_le, bound] at under
    dsimp only
    omega

theorem not_drops (m : Mirrors r i) (prob : UInt8) (below : i.distance r.data < i.range) :
    ¬ r.Drops prob := by
  obtain ⟨positive, small, window⟩ := cut_below m prob below
  have range := (renormShift_bounds positive small).2.2
  have shifted : (r.cut prob).rest.toNat * 2 ^ renormShift (r.cut prob).range <
      256 * 2 ^ 56 := by
    calc (r.cut prob).rest.toNat * 2 ^ renormShift (r.cut prob).range
        < (r.cut prob).range * 2 ^ 56 * 2 ^ renormShift (r.cut prob).range :=
          Nat.mul_lt_mul_of_pos_right window (Nat.two_pow_pos _)
      _ = (r.cut prob).range * 2 ^ renormShift (r.cut prob).range * 2 ^ 56 := by ring
      _ ≤ 256 * 2 ^ 56 := Nat.mul_le_mul_right _ range.le
  unfold Drops
  omega

end BoolReader

theorem readBits_exact {r : BoolReader} {i : Interval} (m : Mirrors r i) (probs : List UInt8) :
    ∃ j, Mirrors (readBits BoolReader.read probs r).2 j ∧
      (readBits BoolReader.read probs r).2.data = r.data ∧
      readBits ExactReader.read probs (i.exact r.data) =
        ((readBits BoolReader.read probs r).1, j.exact r.data) := by
  induction probs generalizing r i with
  | nil => exact ⟨i, m, rfl, rfl⟩
  | cons prob probs ih =>
    obtain ⟨next, data⟩ := BoolReader.read_mirrors m prob
    obtain ⟨j, last, same, exact⟩ := ih next
    rw [data] at same exact
    rw [readBits_cons, readBits_cons, Interval.read_exact m.scaled (BoolReader.read_bit m prob),
      exact]
    dsimp only
    exact ⟨j, last, same, rfl⟩

theorem readBits_below {m : ExactReader} (below : m.Below) (probs : List UInt8) :
    (readBits ExactReader.read probs m).2.Below := by
  induction probs generalizing m with
  | nil => exact below
  | cons prob probs ih =>
    rw [readBits_cons]
    exact ih (below.read prob)

/-- The reader with a window is the machine with an exact fraction. Unless the data starts with 255,
    that fraction never has to be reduced, and no bit that is set ever leaves the window. -/
theorem windowed_reading_is_exact (data : ByteArray) (probs : List UInt8) :
    let windowed := readBits BoolReader.read probs (.ofBytes data)
    let exact := readBits ExactReader.read probs (.ofBytes data)
    windowed.1 = exact.1 ∧ windowed.2.range = exact.2.range ∧
      windowed.2.shifted = exact.2.shifts ∧ 128 ≤ windowed.2.range ∧ windowed.2.range ≤ 255 ∧
      (data.size = 0 ∨ BoolReader.byteAt data 0 ≠ 255 → exact.2.value < exact.2.range ∧
        ∀ prob, ¬ exact.2.Overflows prob ∧ ¬ windowed.2.Drops prob) := by
  intro windowed exact
  obtain ⟨start, whole⟩ := BoolReader.ofBytes_mirrors data
  obtain ⟨j, mirrors, same, reads⟩ := readBits_exact start probs
  rw [whole] at same reads
  rw [Interval.empty_exact] at reads
  have bits : exact.1 = windowed.1 := congrArg Prod.fst reads
  have place : exact.2 = j.exact data := congrArg Prod.snd reads
  have range : windowed.2.range = j.range := mirrors.range_eq
  have scaled := mirrors.scaled
  refine ⟨bits.symm, ?_, ?_, range ▸ scaled.1, ?_, ?_⟩
  · rw [place, range, Interval.exact_range]
  · rw [place]
    exact mirrors.shifts_eq
  · rw [range]
    exact Nat.le_of_lt_succ scaled.2
  · intro first
    have other : BoolReader.byteAt data 0 ≠ 255 := by
      rcases first with empty | other
      · simp [BoolReader.byteAt, empty]
      · exact other
    have below : exact.2.Below := readBits_below (ExactReader.ofBytes_below other) probs
    refine ⟨below.below, fun prob => ⟨below.not_overflows prob, ?_⟩⟩
    apply BoolReader.not_drops mirrors
    rw [same]
    rw [place] at below
    have whole := Int.floor_lt.mpr (show (j.exact data).value < (j.range : ℤ) by
      exact_mod_cast below.below)
    rw [← Interval.distance_eq] at whole
    exact_mod_cast whole

theorem lone_byte_is_read_exactly :
    let exact := readBits ExactReader.read (List.replicate 12 128) (.ofBytes ⟨#[0xA5]⟩)
    exact.1 = [true, false, true, false, false, true, false, true, false, true, false, false] ∧
      exact.2.value < exact.2.range ∧ ∀ prob, ¬ exact.2.Overflows prob := by
  intro exact
  obtain ⟨bits, _, _, _, _, inside⟩ :=
    windowed_reading_is_exact ⟨#[0xA5]⟩ (List.replicate 12 128)
  obtain ⟨below, kept⟩ := inside (.inr (by decide))
  exact ⟨bits.symm.trans (by decide +kernel), below, fun prob => (kept prob).1⟩

end Vp8
