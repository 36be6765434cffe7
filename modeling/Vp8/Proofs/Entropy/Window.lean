import Vp8.Proofs.Entropy.Interval

/-!
What the window of a reader holds: the bits of the data from the active byte on, less the low end of
the interval that the bits read so far lead to. The bit that is read next thus depends on that
interval and on the data up to the end of the active byte alone.
-/
namespace Vp8

/-- The reader is where a writer of the same choices is, and its window holds the loaded bytes less
    the low end of the interval. Both count from the active byte on, and all that lies beyond the
    top of the window is lost. -/
structure Mirrors (r : BoolReader) (i : Interval) : Prop where
  scaled : i.Scaled
  range_eq : r.range = i.range
  shifts_eq : r.shifted = i.shifts
  held_le : r.held ≤ 64
  whole : (r.shifted + r.held) % 8 = 0
  clear : 2 ^ (64 - r.held) ∣ r.window.toNat
  window : r.window.toNat * 2 ^ r.held + i.low * 2 ^ (r.held + 56) ≡
    leadingBytes r.data ((r.shifted + r.held) / 8) * 2 ^ 64 [MOD 2 ^ (r.held + 64)]

structure Cut (α : Type) where
  bit : Bool
  range : Nat
  rest : α

namespace BoolReader

theorem shiftLeft_toNat (a : UInt64) {shift : Nat} (small : shift < 64) :
    (a <<< shift.toUInt64).toNat = a.toNat * 2 ^ shift % 2 ^ 64 := by
  have word : shift.toUInt64.toNat % 64 = shift := by
    simp only [Nat.toUInt64, UInt64.toNat_ofNat']
    omega
  rw [UInt64.toNat_shiftLeft, word, Nat.shiftLeft_eq]

theorem loadByte_window {r : BoolReader} (room : r.held ≤ 56)
    (clear : 2 ^ (64 - r.held) ∣ r.window.toNat) :
    r.loadByte.window.toNat = r.window.toNat +
      (byteAt r.data ((r.shifted + r.held) / 8)).toNat * 2 ^ (56 - r.held) := by
  unfold loadByte
  generalize byteAt r.data ((r.shifted + r.held) / 8) = byte
  have small : byte.toNat * 2 ^ (56 - r.held) < 2 ^ (64 - r.held) := by
    rw [show 64 - r.held = 8 + (56 - r.held) by omega, Nat.pow_add]
    exact Nat.mul_lt_mul_of_pos_right byte.toNat_lt (Nat.two_pow_pos _)
  have word : 2 ^ (64 - r.held) ≤ 2 ^ 64 := Nat.pow_le_pow_right (by decide) (by omega)
  obtain ⟨q, hq⟩ := clear
  rw [UInt64.toNat_or, shiftLeft_toNat _ (by omega), UInt8.toNat_toUInt64,
    Nat.mod_eq_of_lt (by omega), hq, Nat.mul_comm, ← Nat.shiftLeft_eq,
    Nat.shiftLeft_add_eq_or_of_lt small]

theorem loadByte_mirrors {r : BoolReader} {i : Interval} (m : Mirrors r i)
    (room : r.held ≤ 56) : Mirrors r.loadByte i where
  scaled := m.scaled
  range_eq := m.range_eq
  shifts_eq := m.shifts_eq
  held_le := by change r.held + 8 ≤ 64; omega
  whole := by
    have := m.whole
    change (r.shifted + (r.held + 8)) % 8 = 0
    omega
  clear := by
    rw [loadByte_window room m.clear]
    change 2 ^ (64 - (r.held + 8)) ∣ _
    rw [show 64 - (r.held + 8) = 56 - r.held by omega]
    have finer : 2 ^ (56 - r.held) ∣ 2 ^ (64 - r.held) := Nat.pow_dvd_pow 2 (by omega)
    exact Nat.dvd_add (Nat.dvd_trans finer m.clear) (Nat.dvd_mul_left ..)
  window := by
    have next : (r.shifted + (r.held + 8)) / 8 = (r.shifted + r.held) / 8 + 1 := by omega
    have scale : 2 ^ (56 - r.held) * 2 ^ r.held = 2 ^ 56 := by
      rw [← Nat.pow_add]
      congr 1
      omega
    rw [loadByte_window room m.clear]
    change _ * 2 ^ (r.held + 8) + i.low * 2 ^ (r.held + 8 + 56) ≡
      leadingBytes r.data ((r.shifted + (r.held + 8)) / 8) * 2 ^ 64 [MOD 2 ^ (r.held + 8 + 64)]
    rw [next, leadingBytes]
    generalize (byteAt r.data ((r.shifted + r.held) / 8)).toNat = byte
    have left : (r.window.toNat + byte * 2 ^ (56 - r.held)) * 2 ^ (r.held + 8) +
        i.low * 2 ^ (r.held + 8 + 56) =
        2 ^ 8 * (r.window.toNat * 2 ^ r.held + i.low * 2 ^ (r.held + 56)) + byte * 2 ^ 64 := by
      calc _ = 2 ^ 8 * (r.window.toNat * 2 ^ r.held + i.low * 2 ^ (r.held + 56)) +
            byte * (2 ^ (56 - r.held) * 2 ^ r.held) * 2 ^ 8 := by ring
        _ = _ := by rw [scale]; ring
    have right : (256 * leadingBytes r.data ((r.shifted + r.held) / 8) + byte) * 2 ^ 64 =
        2 ^ 8 * (leadingBytes r.data ((r.shifted + r.held) / 8) * 2 ^ 64) + byte * 2 ^ 64 := by ring
    have modulus : 2 ^ (r.held + 8 + 64) = 2 ^ 8 * 2 ^ (r.held + 64) := by ring
    rw [left, right, modulus]
    exact (m.window.mul_left' _).add_right _

theorem repeat_loadByte_mirrors {r : BoolReader} {i : Interval} (m : Mirrors r i) (n : Nat)
    (room : r.held + 8 * n ≤ 64) :
    Mirrors (Nat.repeat loadByte n r) i ∧ (Nat.repeat loadByte n r).held = r.held + 8 * n ∧
      (Nat.repeat loadByte n r).data = r.data := by
  induction n with
  | zero => exact ⟨m, rfl, rfl⟩
  | succ n ih =>
    obtain ⟨mirrors, held, data⟩ := ih (by omega)
    refine ⟨loadByte_mirrors mirrors (by omega), ?_, data⟩
    change (Nat.repeat loadByte n r).held + 8 = r.held + 8 * (n + 1)
    omega

theorem refill_mirrors {r : BoolReader} {i : Interval} (m : Mirrors r i) :
    Mirrors r.refill i ∧ 57 ≤ r.refill.held ∧ r.refill.data = r.data := by
  have := m.held_le
  obtain ⟨mirrors, held, data⟩ := repeat_loadByte_mirrors m ((64 - r.held) / 8) (by omega)
  refine ⟨mirrors, ?_, data⟩
  change 57 ≤ (Nat.repeat loadByte ((64 - r.held) / 8) r).held
  omega

theorem ofBytes_mirrors (data : ByteArray) :
    Mirrors (ofBytes data) .empty ∧ (ofBytes data).data = data := by
  have start : Mirrors { data, window := 0, held := 0, range := 255, shifted := 0 } .empty :=
    { scaled := Interval.empty_scaled
      range_eq := rfl
      shifts_eq := rfl
      held_le := Nat.zero_le _
      whole := rfl
      clear := ⟨0, rfl⟩
      window := by simp [Interval.empty, leadingBytes, Nat.ModEq] }
  exact ⟨(refill_mirrors start).1, (refill_mirrors start).2.2⟩

theorem settle_mirrors {r : BoolReader} {i : Interval} (m : Mirrors r i) (full : 8 ≤ r.held)
    (c : Choice) {window : UInt64}
    (rest : window.toNat + i.advance c * 2 ^ 56 = r.window.toNat) :
    Mirrors (r.settle (i.remaining c) window) (i.put c) := by
  have bounds := Interval.remaining_bounds m.scaled c
  have renorm := (renormShift_bounds bounds.1 bounds.2.1).1
  have scaled := Interval.put_scaled m.scaled c
  rw [Interval.put_eq] at scaled ⊢
  obtain ⟨h, hh⟩ := Nat.exists_eq_add_of_le (show renormShift (i.remaining c) ≤ r.held by omega)
  have held : (r.settle (i.remaining c) window).held = h := by
    change r.held - renormShift (i.remaining c) = h
    omega
  have loaded : (r.settle (i.remaining c) window).shifted + h = r.shifted + r.held := by
    change r.shifted + renormShift (i.remaining c) + h = r.shifted + r.held
    omega
  have clear : 2 ^ (64 - r.held) ∣ window.toNat := by
    have head : 2 ^ (64 - r.held) ∣ i.advance c * 2 ^ 56 :=
      Nat.dvd_mul_left_of_dvd (Nat.pow_dvd_pow 2 (by omega)) _
    exact (Nat.dvd_add_left head).mp (rest ▸ m.clear)
  have word : (r.settle (i.remaining c) window).window.toNat =
      window.toNat * 2 ^ renormShift (i.remaining c) % 2 ^ 64 := shiftLeft_toNat _ (by omega)
  have limit := m.held_le
  refine ⟨scaled, rfl, ?_, ?_, ?_, ?_, ?_⟩
  · change r.shifted + _ = i.shifts + _
    rw [m.shifts_eq]
  · omega
  · rw [held, loaded]
    exact m.whole
  · rw [held, word]
    refine (Nat.dvd_mod_iff (Nat.pow_dvd_pow 2 (by omega))).mpr ?_
    rw [show 64 - h = 64 - r.held + renormShift (i.remaining c) by omega, Nat.pow_add]
    exact Nat.mul_dvd_mul_right clear _
  · rw [held, loaded, word, Interval.settle_low]
    generalize renormShift (i.remaining c) = shift at *
    have kept : window.toNat * 2 ^ shift % 2 ^ 64 * 2 ^ h ≡ window.toNat * 2 ^ shift * 2 ^ h
        [MOD 2 ^ (h + 64)] := by
      rw [Nat.add_comm h, Nat.pow_add]
      exact (Nat.mod_modEq _ _).mul_right' _
    have whole : window.toNat * 2 ^ shift * 2 ^ h +
        (i.low + i.advance c) <<< shift * 2 ^ (h + 56) =
        r.window.toNat * 2 ^ r.held + i.low * 2 ^ (r.held + 56) := by
      rw [← rest, hh, Nat.shiftLeft_eq]
      ring
    have finer := m.window.of_dvd (Nat.pow_dvd_pow 2 (show h + 64 ≤ r.held + 64 by omega))
    rw [← whole] at finer
    exact (kept.add_right _).trans finer

def ready (r : BoolReader) : BoolReader := if r.held < 8 then r.refill else r

theorem ready_mirrors {r : BoolReader} {i : Interval} (m : Mirrors r i) :
    Mirrors r.ready i ∧ 8 ≤ r.ready.held ∧ r.ready.data = r.data := by
  unfold ready
  split
  · obtain ⟨mirrors, held, data⟩ := refill_mirrors m
    exact ⟨mirrors, by omega, data⟩
  · exact ⟨m, by omega, rfl⟩

theorem active_byte {r : BoolReader} {i : Interval} (m : Mirrors r i) (full : 8 ≤ r.held) :
    r.window.toNat / 2 ^ 56 = i.distance r.data := by
  have whole := m.whole
  have bits : leadingBits r.data (i.shifts + 8) =
      leadingBytes r.data ((r.shifted + r.held) / 8) * 2 ^ 64 / 2 ^ (r.held + 56) := by
    rw [← m.shifts_eq, leadingBits_eq r.data (k := (r.shifted + r.held) / 8) (by omega),
      show 8 * ((r.shifted + r.held) / 8) - (r.shifted + 8) = r.held - 8 by omega,
      show r.held + 56 = r.held - 8 + 64 by omega, Nat.pow_add,
      Nat.mul_div_mul_right _ _ (Nat.two_pow_pos 64)]
  have top : (r.window.toNat * 2 ^ r.held + i.low * 2 ^ (r.held + 56)) / 2 ^ (r.held + 56) =
      r.window.toNat / 2 ^ 56 + i.low := by
    rw [Nat.add_mul_div_right _ _ (Nat.two_pow_pos _), Nat.add_comm r.held, Nat.pow_add,
      Nat.mul_div_mul_right _ _ (Nat.two_pow_pos _)]
  have equal : (r.window.toNat / 2 ^ 56 + i.low) % 2 ^ 8 =
      leadingBits r.data (i.shifts + 8) % 2 ^ 8 := by
    have modulus : 2 ^ (r.held + 64) = 2 ^ (r.held + 56) * 2 ^ 8 := by rw [← Nat.pow_add]
    have window := m.window
    rw [modulus] at window
    rw [← top, bits, ← Nat.mod_mul_right_div_self, ← Nat.mod_mul_right_div_self, window]
  have word := r.window.toNat_lt
  unfold Interval.distance
  omega

theorem bound_le_iff {split : Nat} (small : split < 256) (window : UInt64) :
    split.toUInt64 <<< 56 ≤ window ↔ split ≤ window.toNat / 2 ^ 56 := by
  rw [UInt64.le_iff_toNat_le, show (56 : UInt64) = Nat.toUInt64 56 from rfl,
    shiftLeft_toNat _ (by decide), Nat.toUInt64, UInt64.toNat_ofNat']
  omega

theorem read_ready (r : BoolReader) (prob : UInt8) :
    r.read prob =
      let split := splitPoint r.ready.range prob
      let bound := split.toUInt64 <<< 56
      if bound ≤ r.ready.window then
        (true, r.ready.settle (r.ready.range - split) (r.ready.window - bound))
      else (false, r.ready.settle split r.ready.window) := rfl

def cut (r : BoolReader) (prob : UInt8) : Cut UInt64 :=
  let split := splitPoint r.ready.range prob
  let bound := split.toUInt64 <<< 56
  if bound ≤ r.ready.window then ⟨true, r.ready.range - split, r.ready.window - bound⟩
  else ⟨false, split, r.ready.window⟩

theorem read_cut (r : BoolReader) (prob : UInt8) :
    r.read prob = ((r.cut prob).bit, r.ready.settle (r.cut prob).range (r.cut prob).rest) := by
  rw [read_ready]
  unfold cut
  dsimp only
  split <;> rfl

/-- The bit that is read depends on the low end, the range and the data up to the end of the active
    byte. -/
theorem read_bit {r : BoolReader} {i : Interval} (m : Mirrors r i) (prob : UInt8) :
    (r.read prob).1 = decide (splitPoint i.range prob ≤ i.distance r.data) := by
  obtain ⟨mirrors, full, data⟩ := ready_mirrors m
  have split := splitPoint_bounds m.scaled.1 m.scaled.2 prob
  have bound := bound_le_iff (Nat.lt_trans split.2 m.scaled.2) r.ready.window
  rw [active_byte mirrors full, data] at bound
  rw [read_cut, cut, mirrors.range_eq]
  dsimp only
  split
  · rename_i le
    exact (decide_eq_true (bound.mp le)).symm
  · rename_i lt
    exact (decide_eq_false fun le => lt (bound.mpr le)).symm

theorem read_mirrors {r : BoolReader} {i : Interval} (m : Mirrors r i) (prob : UInt8) :
    Mirrors (r.read prob).2 (i.put ⟨prob, (r.read prob).1⟩) ∧ (r.read prob).2.data = r.data := by
  obtain ⟨mirrors, full, data⟩ := ready_mirrors m
  have split := splitPoint_bounds m.scaled.1 m.scaled.2 prob
  rw [read_cut, cut, mirrors.range_eq]
  dsimp only
  split
  · rename_i le
    refine ⟨settle_mirrors mirrors full ⟨prob, true⟩ ?_, data⟩
    have value : (splitPoint i.range prob).toUInt64 <<< 56 =
        (splitPoint i.range prob).toUInt64 <<< Nat.toUInt64 56 := rfl
    rw [UInt64.toNat_sub_of_le _ _ le]
    rw [UInt64.le_iff_toNat_le] at le
    rw [value, shiftLeft_toNat _ (by decide), Nat.toUInt64, UInt64.toNat_ofNat'] at le ⊢
    change _ + splitPoint i.range prob * 2 ^ 56 = _
    have small := m.scaled.2
    omega
  · exact ⟨settle_mirrors mirrors full ⟨prob, false⟩ (by simp [Interval.advance]), data⟩

end BoolReader

end Vp8
