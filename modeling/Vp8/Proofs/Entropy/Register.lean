import Vp8.Proofs.Entropy.Interval

/-!
The register of a writer against the exact interval. The bytes put out are the interval's low end
without its last bits, and the register holds those bits. A carry that has not yet reached the bytes
waits on top of the register; it never runs past the first byte, and flushing leaves none behind.
-/
namespace Vp8

def number : List UInt8 → Nat
  | [] => 0
  | byte :: rest => byte.toNat + 256 * number rest

namespace BoolWriter

theorem carry_length (bytes : List UInt8) : (carry bytes).length = bytes.length := by
  induction bytes with
  | nil => rfl
  | cons byte rest ih =>
    unfold carry
    split
    · simp [ih]
    · rfl

theorem carry_number {bytes : List UInt8} (room : number bytes + 1 < 256 ^ bytes.length) :
    number (carry bytes) = number bytes + 1 := by
  induction bytes with
  | nil => simp at room
  | cons byte rest ih =>
    rw [List.length_cons, Nat.pow_succ'] at room
    simp only [number] at room
    by_cases full : byte = 255
    · subst full
      have value : (255 : UInt8).toNat = 255 := rfl
      simp only [carry, ↓reduceIte, number, value] at room ⊢
      rw [ih (by omega)]
      change 0 + 256 * (number rest + 1) = 255 + 256 * number rest + 1
      omega
    · have small : byte.toNat < 255 := by
        have := byte.toNat_lt
        have : byte.toNat ≠ 255 := fun eq => full (UInt8.toNat_inj.mp eq)
        omega
      have value : (byte + 1).toNat = byte.toNat + 1 := by
        rw [UInt8.toNat_add]
        change (byte.toNat + 1) % 2 ^ 8 = byte.toNat + 1
        omega
      simp only [carry, full, ↓reduceIte, number, value]
      omega

end BoolWriter

/-- The writer holds the interval: its low end split between the bytes put out and the register. -/
structure Represents (w : BoolWriter) (i : Interval) : Prop where
  range_eq : w.range = i.range
  low_eq : number w.output * 2 ^ (32 - w.due) + w.low = i.low
  shifts_eq : i.shifts + w.due = 24 + 8 * w.output.length
  due_positive : 0 < w.due
  due_le : w.due ≤ 24
  narrow : w.low + w.range ≤ 2 ^ (33 - w.due)

namespace BoolWriter

theorem empty_represents : Represents empty .empty :=
  ⟨rfl, rfl, rfl, by decide, by decide, by decide⟩

structure Part (w : BoolWriter) (start range : Nat) : Prop where
  positive : 0 < range
  small : range < 256
  within : start + range ≤ w.range

theorem settle_early {w : BoolWriter} {i : Interval} (rep : Represents w i) {start range : Nat}
    (part : w.Part start range) (early : renormShift range < w.due) :
    Represents (w.settle (w.low + start) range)
      (Interval.settle (i.low + start) range i.shifts) := by
  have narrow := rep.narrow
  have whole := rep.shifts_eq
  have limit := rep.due_le
  unfold settle Interval.settle
  simp only [early, ↓reduceIte, Nat.shiftLeft_eq]
  generalize renormShift range = shift at *
  refine ⟨rfl, ?_, ?_, ?_, ?_, ?_⟩
  · change number w.output * 2 ^ (32 - (w.due - shift)) + _ = _
    rw [← rep.low_eq, show 32 - (w.due - shift) = 32 - w.due + shift by omega, Nat.pow_add]
    ring
  · change i.shifts + shift + (w.due - shift) = 24 + 8 * w.output.length
    omega
  · change 0 < w.due - shift
    omega
  · change w.due - shift ≤ 24
    omega
  · change (w.low + start) * 2 ^ shift + range * 2 ^ shift ≤ 2 ^ (33 - (w.due - shift))
    rw [← Nat.add_mul, show 33 - (w.due - shift) = 33 - w.due + shift by omega, Nat.pow_add]
    have := part.within
    exact Nat.mul_le_mul_right _ (by omega)

/-- A carry finds a byte to end in, for the interval never leaves the first one. -/
theorem carry_room {w : BoolWriter} {i : Interval} (rep : Represents w i) (inside : i.Inside)
    {start range : Nat} (part : w.Part start range)
    (beyond : 2 ^ 32 ≤ (w.low + start) * 2 ^ w.due) :
    number w.output + 1 < 256 ^ w.output.length := by
  have limit := rep.due_le
  have whole := rep.shifts_eq
  have within := part.within
  have positive := part.positive
  have reach : 2 ^ (32 - w.due) ≤ w.low + start := by
    have power : 2 ^ (32 - w.due) * 2 ^ w.due = 2 ^ 32 := by
      rw [← Nat.pow_add]
      congr 1
      omega
    rw [← power] at beyond
    exact Nat.le_of_mul_le_mul_right beyond (Nat.two_pow_pos _)
  have ends : 255 * 2 ^ i.shifts < 2 ^ (32 - w.due) * 256 ^ w.output.length := by
    rw [show (256 : Nat) = 2 ^ 8 from rfl, ← Nat.pow_mul, ← Nat.pow_add,
      show 32 - w.due + 8 * w.output.length = 8 + i.shifts by omega, Nat.pow_add]
    exact Nat.mul_lt_mul_of_pos_right (by decide) (Nat.two_pow_pos _)
  refine Nat.lt_of_mul_lt_mul_left (a := 2 ^ (32 - w.due)) ?_
  calc 2 ^ (32 - w.due) * (number w.output + 1)
      = number w.output * 2 ^ (32 - w.due) + 2 ^ (32 - w.due) := by ring
    _ ≤ i.low + start := by rw [← rep.low_eq]; omega
    _ ≤ i.low + i.range := by rw [← rep.range_eq]; omega
    _ ≤ 255 * 2 ^ i.shifts := inside
    _ < _ := ends

theorem register_parts {top : Nat} (small : top < 2 ^ 33) :
    top = (top.testBit 32).toNat * 2 ^ 32 + (top >>> 24).toUInt8.toNat * 2 ^ 24 +
      top % 16777216 := by
  have byte : (top >>> 24).toUInt8.toNat = top / 2 ^ 24 % 2 ^ 8 := by
    rw [Nat.shiftRight_eq_div_pow, Nat.toUInt8, UInt8.toNat_ofNat']
  rw [byte, Nat.testBit_eq_decide_div_mod_eq]
  by_cases bit : top / 2 ^ 32 % 2 = 1
  · simp only [bit, decide_true, Bool.toNat_true]
    omega
  · simp only [bit, decide_false, Bool.toNat_false]
    omega

theorem settle_late {w : BoolWriter} {i : Interval} (rep : Represents w i) (inside : i.Inside)
    {start range : Nat} (part : w.Part start range) (late : ¬ renormShift range < w.due) :
    Represents (w.settle (w.low + start) range)
      (Interval.settle (i.low + start) range i.shifts) := by
  have narrow := rep.narrow
  have whole := rep.shifts_eq
  have renorm := renormShift_bounds part.positive part.small
  have room := carry_room rep inside part
  have within := part.within
  have positive := part.positive
  unfold settle Interval.settle
  simp only [late, ↓reduceIte, Nat.shiftLeft_eq]
  obtain ⟨rest, hrest⟩ := Nat.exists_eq_add_of_le (Nat.le_of_not_lt late)
  rw [hrest] at renorm ⊢
  rw [Nat.add_sub_cancel_left]
  have small : (w.low + start) * 2 ^ w.due < 2 ^ 33 := by
    have power : 2 ^ (33 - w.due) * 2 ^ w.due = 2 ^ 33 := by
      rw [← Nat.pow_add]
      congr 1
      omega
    rw [← power]
    exact Nat.mul_lt_mul_of_pos_right (by omega) (Nat.two_pow_pos _)
  have parts := register_parts small
  have low : i.low + start = number w.output * 2 ^ (32 - w.due) + (w.low + start) := by
    rw [← rep.low_eq]
    omega
  have scaled : (i.low + start) * 2 ^ (w.due + rest) =
      (number w.output * 2 ^ 32 + (w.low + start) * 2 ^ w.due) * 2 ^ rest := by
    have power : 2 ^ (32 - w.due) * 2 ^ w.due = 2 ^ 32 := by
      rw [← Nat.pow_add]
      congr 1
      omega
    rw [low, ← power, Nat.pow_add]
    ring
  have waits : 32 - (8 - rest) = 24 + rest := by omega
  generalize (w.low + start) * 2 ^ w.due = top at *
  have output : number (if top.testBit 32 then carry w.output else w.output) =
      number w.output + (top.testBit 32).toNat := by
    cases beyond : top.testBit 32
    · rfl
    · rw [beyond] at parts
      simp only [↓reduceIte]
      exact carry_number (room (by simp only [Bool.toNat_true] at parts; omega))
  have length : (if top.testBit 32 then carry w.output else w.output).length =
      w.output.length := by
    split
    · exact carry_length _
    · rfl
  refine ⟨rfl, ?_, ?_, ?_, ?_, ?_⟩
  · change number (_ :: _) * 2 ^ (32 - (8 - rest)) + top % 16777216 * 2 ^ rest = _
    rw [number, output, waits, scaled, Nat.pow_add]
    conv => rhs; rw [parts]
    ring
  · change i.shifts + (w.due + rest) + (8 - rest) = 24 + 8 * (_ :: _).length
    rw [List.length_cons, length]
    omega
  · change 0 < 8 - rest
    omega
  · change 8 - rest ≤ 24
    omega
  · change top % 16777216 * 2 ^ rest + range * 2 ^ (w.due + rest) ≤ 2 ^ (33 - (8 - rest))
    have kept : top % 16777216 * 2 ^ rest ≤ 2 ^ 24 * 2 ^ rest :=
      Nat.mul_le_mul_right _ (by omega)
    have least : 1 ≤ 2 ^ rest := Nat.two_pow_pos rest
    rw [show 33 - (8 - rest) = 25 + rest by omega, Nat.pow_add 2 25]
    omega

theorem settle_represents {w : BoolWriter} {i : Interval} (rep : Represents w i)
    (inside : i.Inside) {start range : Nat} (part : w.Part start range) :
    Represents (w.settle (w.low + start) range)
      (Interval.settle (i.low + start) range i.shifts) := by
  by_cases early : renormShift range < w.due
  · exact settle_early rep part early
  · exact settle_late rep inside part early

end BoolWriter

structure Tracks (w : BoolWriter) (i : Interval) : Prop extends Represents w i where
  scaled : i.Scaled
  inside : i.Inside

namespace BoolWriter

theorem empty_tracks : Tracks empty .empty :=
  ⟨empty_represents, Interval.empty_scaled, Nat.le_refl _⟩

theorem put_tracks {w : BoolWriter} {i : Interval} (t : Tracks w i) (c : Choice) :
    Tracks (w.put c) (i.put c) := by
  have split := splitPoint_bounds t.scaled.1 t.scaled.2 c.prob
  have small := t.scaled.2
  have equal := t.range_eq
  refine ⟨?_, Interval.put_scaled t.scaled c, Interval.put_inside t.scaled t.inside c⟩
  unfold put Interval.put
  rw [equal]
  cases c.bit
  · have part : w.Part 0 (splitPoint i.range c.prob) := ⟨split.1, by omega, by omega⟩
    have step := settle_represents t.toRepresents t.inside part
    rw [Nat.add_zero, Nat.add_zero] at step
    exact step
  · exact settle_represents t.toRepresents t.inside ⟨by omega, by omega, by omega⟩

theorem putAll_tracks {w : BoolWriter} {i : Interval} (t : Tracks w i) (cs : List Choice) :
    Tracks (w.putAll cs) (i.putAll cs) := by
  induction cs generalizing w i with
  | nil => exact t
  | cons c cs ih => exact ih (put_tracks t c)

def Settled (w : BoolWriter) : Prop := w.low < 2 ^ (32 - w.due)

/-- Where nothing is added to the low end, a byte that goes out takes the waiting carry along. -/
theorem settle_settled {w : BoolWriter} (limit : w.due ≤ 24) {range : Nat} (positive : 0 < range)
    (small : range < 256) (ready : w.Settled ∨ ¬ renormShift range < w.due) :
    (w.settle w.low range).Settled := by
  have renorm := (renormShift_bounds positive small).1
  unfold Settled settle
  simp only [Nat.shiftLeft_eq]
  split
  · rename_i early
    have settled : w.low < 2 ^ (32 - w.due) := ready.resolve_right (not_not_intro early)
    change w.low * 2 ^ renormShift range < 2 ^ (32 - (w.due - renormShift range))
    rw [show 32 - (w.due - renormShift range) = 32 - w.due + renormShift range by omega,
      Nat.pow_add]
    exact Nat.mul_lt_mul_of_pos_right settled (Nat.two_pow_pos _)
  · obtain ⟨rest, hrest⟩ := Nat.exists_eq_add_of_le (show w.due ≤ renormShift range by omega)
    rw [hrest, Nat.add_sub_cancel_left]
    change w.low * 2 ^ w.due % 16777216 * 2 ^ rest < 2 ^ (32 - (8 - rest))
    rw [show 32 - (8 - rest) = 24 + rest by omega, Nat.pow_add]
    exact Nat.mul_lt_mul_of_pos_right (Nat.mod_lt _ (by decide)) (Nat.two_pow_pos _)

theorem settle_output_of_early {w : BoolWriter} {low range : Nat}
    (early : renormShift range < w.due) : (w.settle low range).output = w.output := by
  unfold settle
  simp only [early, ↓reduceIte]

theorem put_false_settled {w : BoolWriter} {i : Interval} (t : Tracks w i)
    (ready : w.Settled ∨ ¬ renormShift (splitPoint w.range 128) < w.due) :
    (w.put (.flag false)).Settled := by
  have split := splitPoint_bounds t.scaled.1 t.scaled.2 128
  have small := t.scaled.2
  rw [← t.range_eq] at split small
  have range : splitPoint w.range 128 < 256 := by omega
  exact settle_settled t.due_le split.1 range ready

theorem putAll_false_settled {w : BoolWriter} {i : Interval} (t : Tracks w i) (n : Nat)
    (settled : w.Settled) : (w.putAll (.replicate n (.flag false))).Settled := by
  induction n generalizing w i with
  | zero => exact settled
  | succ n ih => exact ih (put_tracks t _) (put_false_settled t (.inl settled))

theorem putAll_false_settled_or {w : BoolWriter} {i : Interval} (t : Tracks w i) (n : Nat) :
    (w.putAll (.replicate n (.flag false))).Settled ∨
      (w.putAll (.replicate n (.flag false))).output.length = w.output.length := by
  induction n generalizing w i with
  | zero => exact .inr rfl
  | succ n ih =>
    by_cases early : renormShift (splitPoint w.range 128) < w.due
    · have same : (w.put (.flag false)).output = w.output := settle_output_of_early early
      rcases ih (put_tracks t (.flag false)) with settled | length
      · exact .inl settled
      · exact .inr (length.trans (by rw [same]))
    · exact .inl (putAll_false_settled (put_tracks t _) n (put_false_settled t (.inr early)))

end BoolWriter

namespace Interval

/-- An even choice of `false` doubles the interval, unless its range was the full 255, and leaves an
    even range. -/
theorem put_false {i : Interval} (scaled : i.Scaled) :
    ∃ shift ≤ 1, (i.put (.flag false)).low = i.low * 2 ^ shift ∧
      (i.put (.flag false)).shifts = i.shifts + shift ∧
      (i.put (.flag false)).range % 2 = 0 ∧ (i.range % 2 = 0 → shift = 1) := by
  obtain ⟨low, high⟩ := scaled
  have split : splitPoint i.range 128 = (i.range + 1) / 2 := by
    unfold splitPoint
    change 1 + (i.range - 1) * 128 / 256 = (i.range + 1) / 2
    omega
  have step : i.put (.flag false) = settle i.low ((i.range + 1) / 2) i.shifts := by
    rw [← split]
    rfl
  have shift : renormShift ((i.range + 1) / 2) = if i.range = 255 then 0 else 1 := by
    unfold renormShift
    split
    · rename_i full
      rw [full]
      decide
    · rw [(Nat.log2_eq_iff (by omega)).mpr (show 2 ^ 6 ≤ (i.range + 1) / 2 ∧ _ by omega)]
  rw [step]
  unfold settle
  simp only [Nat.shiftLeft_eq, shift]
  refine ⟨_, ?_, rfl, rfl, ?_, ?_⟩ <;> split <;> omega

/-- At most the first of many even choices of `false` fails to double the interval. -/
theorem putAll_false {i : Interval} (scaled : i.Scaled) (n : Nat) :
    ∃ shift, n ≤ shift + (if i.range % 2 = 0 then 0 else 1) ∧
      (i.putAll (.replicate n (.flag false))).low = i.low * 2 ^ shift ∧
      (i.putAll (.replicate n (.flag false))).shifts = i.shifts + shift := by
  induction n generalizing i with
  | zero => exact ⟨0, Nat.zero_le _, by simp [putAll], by simp [putAll]⟩
  | succ n ih =>
    obtain ⟨first, small, low, shifts, even, doubles⟩ := put_false scaled
    obtain ⟨shift, enough, low', shifts'⟩ := ih (put_scaled scaled (.flag false))
    rw [low] at low'
    rw [shifts] at shifts'
    refine ⟨first + shift, ?_, low'.trans (by rw [Nat.pow_add, Nat.mul_assoc]),
      shifts'.trans (by omega)⟩
    simp only [even, ↓reduceIte] at enough
    split
    · rename_i h
      have := doubles h
      omega
    · omega

end Interval

namespace BoolWriter

theorem byteAt_eq (data : ByteArray) (i : Nat) :
    BoolReader.byteAt data i = data.data[i]?.getD 0 := by
  unfold BoolReader.byteAt
  split
  · rename_i inside
    have inside' : i < data.data.size := inside
    rw [Array.getElem?_eq_getElem inside']
    rfl
  · rename_i outside
    have outside' : data.data.size ≤ i := Nat.le_of_not_lt outside
    rw [Array.getElem?_eq_none outside']
    rfl

theorem leadingBytes_number (bytes : List UInt8) :
    leadingBytes ⟨bytes.reverse.toArray⟩ bytes.length = number bytes := by
  induction bytes with
  | nil => rfl
  | cons byte rest ih =>
    have front : leadingBytes ⟨(byte :: rest).reverse.toArray⟩ rest.length =
        leadingBytes ⟨rest.reverse.toArray⟩ rest.length := by
      refine leadingBytes_congr fun i inside => ?_
      simp only [byteAt_eq, List.getElem?_toArray, List.reverse_cons]
      rw [List.getElem?_append_left (by simpa using inside)]
    have back : BoolReader.byteAt ⟨(byte :: rest).reverse.toArray⟩ rest.length = byte := by
      simp [byteAt_eq]
    rw [List.length_cons, leadingBytes, front, back, ih, number]
    omega

/-- The bytes of a finished writer hold the low end of its interval exactly, with the last active
    byte among them. -/
theorem finish_holds {w : BoolWriter} {i : Interval} (t : Tracks w i) :
    leadingBits w.finish (i.shifts + 8) = i.low ∧ i.shifts + 8 ≤ 8 * w.finish.size := by
  have flushed := putAll_tracks t flush
  obtain ⟨shift, enough, low, shifts⟩ := Interval.putAll_false t.scaled 32
  have least : 31 ≤ shift := by
    split at enough <;> omega
  have whole := flushed.shifts_eq
  have start := t.shifts_eq
  have due := flushed.due_le
  have positive := flushed.due_positive
  have settled : (w.putAll flush).Settled := by
    refine (putAll_false_settled_or t 32).resolve_right fun same => ?_
    have length : (w.putAll flush).output.length = w.output.length := same
    have begun := t.due_le
    have moved : (i.putAll flush).shifts = i.shifts + shift := shifts
    omega
  have size : w.finish.size = (w.putAll flush).output.length := by
    change (w.putAll flush).output.reverse.toArray.size = _
    simp
  change (i.putAll flush).low = i.low * 2 ^ shift at low
  change (i.putAll flush).shifts = i.shifts + shift at shifts
  have bytes : leadingBytes w.finish (w.putAll flush).output.length =
      number (w.putAll flush).output := leadingBytes_number _
  have low_eq := flushed.low_eq
  rw [low] at low_eq
  generalize w.putAll flush = f at *
  obtain ⟨rest, hrest⟩ := Nat.exists_eq_add_of_le (show 32 - f.due ≤ shift by omega)
  have exact_number : number f.output = i.low * 2 ^ rest := by
    unfold Settled at settled
    rw [hrest, Nat.pow_add] at low_eq
    have top : (number f.output * 2 ^ (32 - f.due) + f.low) / 2 ^ (32 - f.due) =
        number f.output := by
      rw [Nat.mul_comm, Nat.mul_add_div (Nat.two_pow_pos _), Nat.div_eq_of_lt settled,
        Nat.add_zero]
    rw [← top, low_eq, Nat.mul_left_comm, Nat.mul_div_cancel_left _ (Nat.two_pow_pos _)]
  have whole_size : i.shifts + 8 + rest = 8 * w.finish.size := by omega
  refine ⟨?_, by omega⟩
  rw [leadingBits_eq w.finish (k := w.finish.size) (by omega),
    show 8 * w.finish.size - (i.shifts + 8) = rest by omega, size, bytes, exact_number,
    Nat.mul_div_cancel _ (Nat.two_pow_pos _)]

end BoolWriter

end Vp8
