import Vp8.Proofs.Entropy.Coded
import Vp8.Proofs.Entropy.Window

/-!
Data that goes on. As long as a reader has not overrun its data, it reads what it would read if
something else stood behind them, for no bit depends on more than the active byte.
-/
namespace Vp8

def Begins (data other : ByteArray) : Prop := ∃ rest, other = data ++ rest

theorem Begins.refl (data : ByteArray) : Begins data data := ⟨.empty, by simp⟩

theorem Begins.size_le {data other : ByteArray} (begins : Begins data other) :
    data.size ≤ other.size := by
  obtain ⟨rest, rfl⟩ := begins
  simp

theorem Begins.byteAt_eq {data other : ByteArray} (begins : Begins data other) {i : Nat}
    (inside : i < data.size) : BoolReader.byteAt other i = BoolReader.byteAt data i := by
  obtain ⟨rest, rfl⟩ := begins
  have longer : i < (data ++ rest).size := by simp; omega
  unfold BoolReader.byteAt
  rw [dif_pos inside, dif_pos longer, ByteArray.getElem_append_left inside]

theorem Begins.leadingBits_eq {data other : ByteArray} (begins : Begins data other) {count : Nat}
    (inside : count ≤ 8 * data.size) : leadingBits other count = leadingBits data count := by
  rw [Vp8.leadingBits_eq other inside, Vp8.leadingBits_eq data inside]
  congr 1
  exact leadingBytes_congr fun i lt => begins.byteAt_eq lt

/-- Two readers that have read the same bits, the second one from data that go on. -/
def Extends (r s : BoolReader) : Prop :=
  (∃ i, Mirrors r i ∧ Mirrors s i) ∧ Begins r.data s.data

namespace BoolReader

theorem overrun_iff (r : BoolReader) : r.overrun = true ↔ 8 * r.data.size < r.shifted + 8 := by
  unfold overrun
  exact decide_eq_true_iff

theorem repeat_loadByte_later (r : BoolReader) (n : Nat) :
    (Nat.repeat loadByte n r).data = r.data ∧ (Nat.repeat loadByte n r).shifted = r.shifted := by
  induction n with
  | zero => exact ⟨rfl, rfl⟩
  | succ n ih => exact ih

theorem ready_later (r : BoolReader) : r.ready.data = r.data ∧ r.ready.shifted = r.shifted := by
  unfold ready
  split
  · exact repeat_loadByte_later r _
  · exact ⟨rfl, rfl⟩

theorem read_later (r : BoolReader) (prob : UInt8) :
    (r.read prob).2.data = r.data ∧ r.shifted ≤ (r.read prob).2.shifted := by
  obtain ⟨data, shifted⟩ := ready_later r
  rw [read_cut]
  unfold settle
  dsimp only
  exact ⟨data, Nat.le_trans (Nat.le_of_eq shifted.symm) (Nat.le_add_right _ _)⟩

theorem overrun_read {r : BoolReader} (prob : UInt8) (beyond : r.overrun = true) :
    (r.read prob).2.overrun = true := by
  obtain ⟨data, later⟩ := read_later r prob
  rw [overrun_iff] at beyond ⊢
  rw [data]
  omega

theorem ofBytes_extends {data other : ByteArray} (begins : Begins data other) :
    Extends (ofBytes data) (ofBytes other) := by
  obtain ⟨mirrors, same⟩ := ofBytes_mirrors data
  obtain ⟨mirrors', same'⟩ := ofBytes_mirrors other
  refine ⟨⟨_, mirrors, mirrors'⟩, ?_⟩
  rw [same, same']
  exact begins

end BoolReader

theorem Extends.overrun_imp {r s : BoolReader} (e : Extends r s) (beyond : s.overrun = true) :
    r.overrun = true := by
  obtain ⟨⟨i, m, m'⟩, begins⟩ := e
  have size := begins.size_le
  rw [BoolReader.overrun_iff] at beyond ⊢
  rw [m.shifts_eq]
  rw [m'.shifts_eq] at beyond
  omega

theorem Extends.shifted_eq {r s : BoolReader} (e : Extends r s) : s.shifted = r.shifted := by
  obtain ⟨⟨i, m, m'⟩, _⟩ := e
  rw [m.shifts_eq, m'.shifts_eq]

theorem Extends.read_inside {r s : BoolReader} (e : Extends r s) (prob : UInt8)
    (inside : r.shifted + 8 ≤ 8 * r.data.size) :
    (s.read prob).1 = (r.read prob).1 ∧ Extends (r.read prob).2 (s.read prob).2 := by
  obtain ⟨⟨i, m, m'⟩, begins⟩ := e
  have moved := BoolReader.read_mirrors m prob
  have moved' := BoolReader.read_mirrors m' prob
  rw [m.shifts_eq] at inside
  have same : (s.read prob).1 = (r.read prob).1 := by
    rw [BoolReader.read_bit m', BoolReader.read_bit m]
    unfold Interval.distance
    rw [begins.leadingBits_eq inside]
  rw [same] at moved'
  refine ⟨same, ⟨_, moved.1, moved'.1⟩, ?_⟩
  rw [moved.2, moved'.2]
  exact begins

theorem Extends.read {r s : BoolReader} (e : Extends r s) (prob : UInt8)
    (enough : (r.read prob).2.overrun = false) :
    (s.read prob).1 = (r.read prob).1 ∧ Extends (r.read prob).2 (s.read prob).2 := by
  obtain ⟨data, later⟩ := BoolReader.read_later r prob
  rw [Bool.eq_false_iff, Ne, BoolReader.overrun_iff, data] at enough
  exact e.read_inside prob (by omega)

namespace Coded

variable {α : Type}

theorem overrun_read (t : Coded α) {r : BoolReader} (beyond : r.overrun = true) :
    (t.read r).2.overrun = true := by
  induction t generalizing r with
  | value a => exact beyond
  | choice prob next ih =>
    rw [read_choice]
    exact ih _ (BoolReader.overrun_read prob beyond)

theorem read_later (t : Coded α) (r : BoolReader) :
    (t.read r).2.data = r.data ∧ r.shifted ≤ (t.read r).2.shifted := by
  induction t generalizing r with
  | value a => exact ⟨rfl, Nat.le_refl _⟩
  | choice prob next ih =>
    obtain ⟨data, later⟩ := BoolReader.read_later r prob
    obtain ⟨data', later'⟩ := ih (r.read prob).1 (r.read prob).2
    rw [read_choice]
    exact ⟨data'.trans data, Nat.le_trans later later'⟩

/-- What is read without an overrun is the same whatever stands behind the data. -/
theorem read_extends (t : Coded α) {r s : BoolReader} (e : Extends r s)
    (enough : (t.read r).2.overrun = false) :
    (t.read s).1 = (t.read r).1 ∧ Extends (t.read r).2 (t.read s).2 := by
  induction t generalizing r s with
  | value a => exact ⟨rfl, e⟩
  | choice prob next ih =>
    rw [read_choice] at enough
    rw [read_choice, read_choice]
    have first : (r.read prob).2.overrun = false := by
      by_contra beyond
      have stays := overrun_read (next (r.read prob).1) (Bool.eq_true_of_not_eq_false beyond)
      rw [enough] at stays
      exact Bool.false_ne_true stays
    obtain ⟨same, rest⟩ := e.read prob first
    rw [same]
    exact ih _ rest enough

/-- A reader of data that go on stays within their beginning exactly if a reader of the beginning
    alone does not overrun it. -/
theorem within_iff (t : Coded α) {r s : BoolReader} (e : Extends r s) :
    (t.read s).2.shifted + 8 ≤ 8 * r.data.size ↔ (t.read r).2.overrun = false := by
  constructor
  · intro within
    induction t generalizing r s with
    | value a =>
      change s.shifted + 8 ≤ _ at within
      change r.overrun = false
      rw [Bool.eq_false_iff, Ne, BoolReader.overrun_iff, ← e.shifted_eq]
      omega
    | choice prob next ih =>
      rw [read_choice] at within ⊢
      have first := (BoolReader.read_later s prob).2
      have later := ((next (s.read prob).1).read_later (s.read prob).2).2
      obtain ⟨same, rest⟩ := e.read_inside prob (by rw [← e.shifted_eq]; omega)
      rw [same] at within
      rw [← (BoolReader.read_later r prob).1] at within
      exact ih _ rest within
  · intro enough
    obtain ⟨data, _⟩ := t.read_later r
    have after := (t.read_extends e enough).2.shifted_eq
    rw [Bool.eq_false_iff, Ne, BoolReader.overrun_iff, data] at enough
    omega

end Coded

end Vp8
