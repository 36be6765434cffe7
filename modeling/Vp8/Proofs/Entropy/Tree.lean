import Vp8.Entropy.Tree
import Vp8.Proofs.Entropy.Checked

/-!
Walks through the trees of the format. A walk that may be refused wherever it looks for an entry or
a probability that is not there, or where it takes too long, is never refused in a tree that fits.
-/
namespace Vp8.CodeTree

/-- The leaf reached from pair `i`, if there is an entry and a probability wherever the walk looks
    for one and `limit` decisions are enough. -/
def readWithin? (t : CodeTree) (probs : Array UInt8) :
    (limit : Nat) → (i : Nat) → Coded (Option Nat)
  | 0, _ => .value none
  | limit + 1, i =>
    match probs[i / 2]? with
    | none => .value none
    | some prob => .choice prob fun bit =>
      match t.entries[i + bit.toNat]? with
      | none => .value none
      | some next =>
        if 0 < next then t.readWithin? probs limit next.toNat else .value (some (leaf next))

def read? (t : CodeTree) (probs : Vector UInt8 n) (start : Nat) : OptionT Coded Nat :=
  t.readWithin? probs.toArray t.entries.size start

variable {t : CodeTree} {n start : Nat}

theorem entry?_eq {i : Nat} {bit : Bool} (inside : i + bit.toNat < t.entries.size) :
    t.entries[i + bit.toNat]? = some (t.entry i bit) := by
  unfold entry
  rw [Array.getElem?_eq_getElem inside, Option.getD_some]

theorem Fits.prob?_eq (fits : t.Fits n start) (probs : Vector UInt8 n) {i : Nat}
    (pair : i + 1 < t.entries.size) :
    probs.toArray[i / 2]? = some (probAt probs.toArray (i / 2)) := by
  obtain ⟨_, probabilities, _⟩ := fits
  have known : i / 2 < probs.toArray.size := by
    rw [Vector.size_toArray]
    omega
  unfold probAt
  rw [Array.getElem?_eq_getElem known, Option.getD_some]

theorem Fits.forward (fits : t.Fits n start) {i : Nat} {bit : Bool} (behind : start ≤ i)
    (inside : i + bit.toNat < t.entries.size) (on : 0 < t.entry i bit) :
    i < (t.entry i bit).toNat ∧ (t.entry i bit).toNat + 1 < t.entries.size := by
  have same : t.entries[i + bit.toNat] = t.entry i bit := by
    rw [← Option.some_inj, ← entry?_eq inside, Array.getElem?_eq_getElem inside]
  obtain ⟨later, there⟩ := fits.2.2 ⟨i + bit.toNat, inside⟩ (Nat.le_add_right_of_le behind)
    (lt_of_lt_of_eq on same.symm)
  dsimp only [Fin.getElem_fin] at later there
  rw [same] at later there
  exact ⟨Nat.lt_of_le_of_lt (Nat.le_add_right _ _) later, there⟩

theorem Fits.readWithin? (fits : t.Fits n start) (probs : Vector UInt8 n) {limit i : Nat}
    (behind : start ≤ i) (pair : i + 1 < t.entries.size) (enough : t.entries.size ≤ limit + i) :
    t.readWithin? probs.toArray limit i = some <$> t.readWithin probs.toArray limit i := by
  induction limit generalizing i with
  | zero => omega
  | succ limit ih =>
    unfold CodeTree.readWithin? CodeTree.readWithin
    rw [fits.prob?_eq probs pair]
    change Coded.choice _ _ = Coded.choice _ _
    congr 1
    funext bit
    have small : bit.toNat ≤ 1 := Bool.toNat_le bit
    have inside : i + bit.toNat < t.entries.size := by omega
    rw [entry?_eq inside]
    change _ = some <$> (if 0 < t.entry i bit then _ else _)
    dsimp only
    by_cases on : 0 < t.entry i bit
    · -- one decision less is enough for a pair that stands further behind
      obtain ⟨later, there⟩ := fits.forward behind inside on
      rw [if_pos on, if_pos on]
      exact ih (by omega) there (by omega)
    · rw [if_neg on, if_neg on]
      rfl

/-- A walk in a tree that fits looks for nothing that is not there, and comes to a leaf. -/
theorem read?_eq (t : CodeTree) (probs : Vector UInt8 n) (start : Nat) (fits : t.Fits n start) :
    t.read? probs start = (t.read probs start fits).sure :=
  Fits.readWithin? fits probs (Nat.le_refl start) fits.1 (Nat.le_add_right _ _)

theorem readWithin_yields {P : Nat → Prop} (zero : P 0)
    (leaves : ∀ k (_ : k < t.entries.size), t.entries[k] ≤ 0 → P (leaf t.entries[k]))
    (probs : Array UInt8) (limit i : Nat) : (t.readWithin probs limit i).Yields P := by
  induction limit generalizing i with
  | zero => exact zero
  | succ limit ih =>
    intro bit
    dsimp only
    split
    · exact ih _
    · rename_i last
      unfold entry at last ⊢
      by_cases inside : i + bit.toNat < t.entries.size
      · rw [Array.getElem?_eq_getElem inside, Option.getD_some] at last ⊢
        exact leaves _ inside (Int.not_lt.mp last)
      · rw [Array.getElem?_eq_none (Nat.not_lt.mp inside), Option.getD_none]
        exact zero

end Vp8.CodeTree
