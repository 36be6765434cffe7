import Vp8.Proofs.Entropy.Extension

/-!
What an overrun tells. While there is none, no bit that was read would be another if the data went
on; once there is one it stays; and whoever reads on comes to one, since every even bit takes the
reader one bit further, but for the very first.
-/
namespace Vp8

namespace Interval

theorem put_range_le {i : Interval} (scaled : i.Scaled) (c : Choice) : (i.put c).range ≤ 254 := by
  have split := splitPoint_bounds scaled.1 scaled.2 c.prob
  have bounds := remaining_bounds scaled c
  have small : i.remaining c ≤ 254 := by
    have := scaled.2
    unfold remaining
    split <;> omega
  have renorm := (renormShift_bounds bounds.1 bounds.2.1).2.2
  rw [put_eq]
  change i.remaining c <<< renormShift (i.remaining c) ≤ 254
  rw [Nat.shiftLeft_eq]
  cases shift : renormShift (i.remaining c) with
  | zero => omega
  | succ s =>
    -- a range that was doubled is even
    rw [shift, Nat.pow_succ, ← Nat.mul_assoc] at renorm
    rw [Nat.pow_succ, ← Nat.mul_assoc]
    omega

/-- An even choice doubles the interval at least once, unless its range was the full 255. -/
theorem put_flag_shifts {i : Interval} (scaled : i.Scaled) (narrow : i.range ≤ 254) (bit : Bool) :
    i.shifts + 1 ≤ (i.put (.flag bit)).shifts := by
  have bounds := remaining_bounds scaled (.flag bit)
  have split : splitPoint i.range 128 = 1 + (i.range - 1) * 128 / 256 := rfl
  have half : i.remaining (.flag bit) ≤ 127 := by
    have := scaled.1
    unfold remaining Choice.flag
    dsimp only
    split <;> omega
  have renorm := (renormShift_bounds bounds.1 bounds.2.1).2.1
  have positive : 0 < renormShift (i.remaining (.flag bit)) := by
    by_contra none
    have zero : renormShift (i.remaining (.flag bit)) = 0 := by omega
    rw [zero] at renorm
    omega
  rw [put_eq]
  exact Nat.add_le_add_left positive _

end Interval

namespace Coded

variable {α : Type}

/-- The bits that are read for a value, in their order. -/
def transcript : Coded α → Coded (List Bool)
  | value _ => value []
  | choice prob next => choice prob fun bit => do return bit :: (← (next bit).transcript)

theorem transcript_read (t : Coded α) (r : BoolReader) :
    (t.transcript.read r).2 = (t.read r).2 := by
  induction t generalizing r with
  | value a => rfl
  | choice prob next ih =>
    unfold transcript
    rw [read_choice, read_choice, read_bind]
    exact ih _ _

def flags : Nat → Coded Unit
  | 0 => return ()
  | n + 1 => do
    let _ ← flag
    flags n

theorem flags_succ_read (n : Nat) (r : BoolReader) :
    (flags (n + 1)).read r = (flags n).read (r.read 128).2 := by
  rw [flags, read_bind, flag, bool, read_choice, read]

theorem read_mirrors (t : Coded α) {r : BoolReader} {i : Interval} (m : Mirrors r i) :
    ∃ j, Mirrors (t.read r).2 j := by
  induction t generalizing r i with
  | value a => exact ⟨i, m⟩
  | choice prob next ih =>
    rw [read_choice]
    exact ih _ (BoolReader.read_mirrors m prob).1

/-- Every even bit takes a reader one bit further, but for the first one after the start. -/
theorem flags_shifted {r : BoolReader} {i : Interval} (m : Mirrors r i) (n : Nat) :
    r.shifted + n ≤ ((flags n).read r).2.shifted + (if i.range ≤ 254 then 0 else 1) := by
  induction n generalizing r i with
  | zero => exact Nat.le_add_right _ _
  | succ n ih =>
    have next := (BoolReader.read_mirrors m 128).1
    have rest := ih next
    have step : r.shifted + (if i.range ≤ 254 then 1 else 0) ≤ (r.read 128).2.shifted := by
      split
      · rename_i narrow
        rw [m.shifts_eq, next.shifts_eq]
        exact Interval.put_flag_shifts m.scaled narrow _
      · exact (BoolReader.read_later r 128).2
    have narrow := Interval.put_range_le m.scaled ⟨128, (r.read 128).1⟩
    rw [if_pos narrow] at rest
    rw [flags_succ_read]
    split at step <;> split <;> omega

end Coded

namespace BoolReader

/-- Whatever was read from some data: if the reader has overrun them, it stays so whatever it reads
    after that. If it has not, all bits so far, and what they stand for, are those it would have
    read if the data went on, so that none was made up behind their end. And as many even bits as
    the data hold are always enough to overrun them; if they are empty, that is so at once. -/
theorem overrun_is_reported (data : ByteArray) {α : Type} (t : Coded α) :
    let r := (t.read (ofBytes data)).2
    (r.overrun = true → ∀ {β : Type} (u : Coded β), (u.read r).2.overrun = true) ∧
    (r.overrun = false → ∀ rest : ByteArray,
      (t.transcript.read (ofBytes (data ++ rest))).1 = (t.transcript.read (ofBytes data)).1 ∧
        (t.read (ofBytes (data ++ rest))).1 = (t.read (ofBytes data)).1) ∧
    (∀ n, 8 * data.size ≤ n → ((Coded.flags n).read r).2.overrun = true) ∧
    (data.size = 0 → r.overrun = true) := by
  intro r
  obtain ⟨start, same⟩ := ofBytes_mirrors data
  obtain ⟨i, mirrors⟩ := t.read_mirrors start
  have whole : r.data = data := (t.read_later (ofBytes data)).1.trans same
  refine ⟨?permanent, ?sound, ?inevitable, ?empty⟩
  case permanent =>
    intro beyond β u
    exact u.overrun_read beyond
  case sound =>
    intro enough rest
    have extends' : Extends (ofBytes data) (ofBytes (data ++ rest)) := ofBytes_extends ⟨rest, rfl⟩
    have heard : (t.transcript.read (ofBytes data)).2.overrun = false := by
      rw [Coded.transcript_read]
      exact enough
    exact ⟨(t.transcript.read_extends extends' heard).1, (t.read_extends extends' enough).1⟩
  case inevitable =>
    intro n enough
    have further : r.shifted + n ≤
        ((Coded.flags n).read r).2.shifted + (if i.range ≤ 254 then 0 else 1) :=
      Coded.flags_shifted mirrors n
    rw [overrun_iff, ((Coded.flags n).read_later r).1, whole]
    split at further <;> omega
  case empty =>
    intro none
    rw [overrun_iff, whole, none]
    omega

theorem two_bytes_are_reported :
    let data : ByteArray := ⟨#[0xA5, 0x3C]⟩
    let byte := (Coded.literal 8).read (ofBytes data)
    let word := (Coded.literal 16).read (ofBytes data)
    byte.2.overrun = false ∧ word.2.overrun = true ∧
      ((Coded.literal 8).read (ofBytes (data ++ ⟨#[0xFF]⟩))).1 = byte.1 ∧
      ((Coded.flags 16).read byte.2).2.overrun = true ∧
      ((Coded.flags 5).read word.2).2.overrun = true := by
  intro data byte word
  have enough : byte.2.overrun = false := by decide +kernel
  have beyond : word.2.overrun = true := by decide +kernel
  obtain ⟨_, sound, inevitable, _⟩ := overrun_is_reported data (Coded.literal 8)
  obtain ⟨permanent, _⟩ := overrun_is_reported data (Coded.literal 16)
  exact ⟨enough, beyond, (sound enough ⟨#[0xFF]⟩).2, inevitable 16 (by decide),
    permanent beyond (Coded.flags 5)⟩

end BoolReader

end Vp8
