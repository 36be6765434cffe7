import Mathlib.Data.Fin.SuccPred
import Mathlib.Data.List.FinRange

/-!
Loops over the numbers below a bound: two of them side by side, and what a single one does to a
value that at most one of its rounds changes.
-/
namespace Vp8

variable {α β : Type} {n : Nat}

/-- The invariant relates the states before a round, whose number it is told. -/
theorem foldl_related {f : α → Fin n → α} {g : β → Fin n → β} (I : Nat → α → β → Prop)
    (step : ∀ k a b, I k.val a b → I (k.val + 1) (f a k) (g b k)) {a : α} {b : β}
    (start : I 0 a b) : I n (Fin.foldl n f a) (Fin.foldl n g b) := by
  induction n with
  | zero =>
    simp only [Fin.foldl_zero]
    exact start
  | succ n ih =>
    rw [Fin.foldl_succ_last, Fin.foldl_succ_last]
    apply step (Fin.last n)
    apply ih
    intro k a b related
    exact step k.castSucc a b related

theorem foldl_invariant {f : α → Fin n → α} (I : Nat → α → Prop)
    (step : ∀ k a, I k.val a → I (k.val + 1) (f a k)) {a : α} (start : I 0 a) :
    I n (Fin.foldl n f a) := by
  have related := foldl_related (g := fun (b : Unit) _ => b) (fun k a _ => I k a)
    (fun k a _ => step k a) (b := ()) start
  exact related

theorem foldl_keeps {f : α → Fin n → α} (observe : α → β)
    (keeps : ∀ a k, observe (f a k) = observe a) (a : α) :
    observe (Fin.foldl n f a) = observe a := by
  induction n with
  | zero => simp only [Fin.foldl_zero]
  | succ n ih =>
    rw [Fin.foldl_succ_last, keeps]
    apply ih
    intro a k
    exact keeps a k.castSucc

theorem foldl_once {f : α → Fin n → α} (observe : α → β) (change : β → β) (hit : Fin n)
    (changes : ∀ a, observe (f a hit) = change (observe a))
    (keeps : ∀ a k, k ≠ hit → observe (f a k) = observe a) (a : α) :
    observe (Fin.foldl n f a) = change (observe a) := by
  induction n with
  | zero => exact hit.elim0
  | succ n ih =>
    rw [Fin.foldl_succ_last]
    rcases Fin.eq_castSucc_or_eq_last hit with ⟨k, rfl⟩ | rfl
    · rw [keeps _ _ k.castSucc_ne_last.symm]
      apply ih k
      · exact changes
      · intro a j other
        apply keeps
        intro same
        exact other (Fin.castSucc_injective n same)
    · rw [changes, foldl_keeps observe]
      intro a k
      exact keeps a k.castSucc k.castSucc_ne_last

theorem foldl_commutes {f : α → Fin n → α} {g : β → Fin n → β} (observe : α → β)
    (step : ∀ a k, observe (f a k) = g (observe a) k) (a : α) :
    observe (Fin.foldl n f a) = Fin.foldl n g (observe a) := by
  apply foldl_related (fun _ a b => observe a = b) _ rfl
  rintro k a _ rfl
  exact step a k

theorem foldlM_commutes {ε ι : Type} {f : α → ι → Except ε α} {g : β → ι → Except ε β}
    (observe : α → β) (step : ∀ a i, (f a i).map observe = g (observe a) i) (is : List ι) (a : α) :
    (is.foldlM f a).map observe = is.foldlM g (observe a) := by
  induction is generalizing a with
  | nil => rfl
  | cons i is ih =>
    rw [List.foldlM_cons, List.foldlM_cons, ← step]
    cases f a i with
    | error e => rfl
    | ok b => exact ih b

/-- Loops in monads, for any way to carry a relation over to their results. -/
theorem foldlM_related {l m : Type → Type} [Monad l] [Monad m]
    (L : (α → β → Prop) → l α → m β → Prop)
    (done : ∀ R a b, R a b → L R (pure a) (pure b))
    (bind : ∀ R S x y f g, L R x y → (∀ a b, R a b → L S (f a) (g b)) → L S (x >>= f) (y >>= g))
    {f : α → Fin n → l α} {g : β → Fin n → m β} (I : Nat → α → β → Prop)
    (step : ∀ k a b, I k.val a b → L (I (k.val + 1)) (f a k) (g b k)) {a : α} {b : β}
    (start : I 0 a b) : L (I n) ((List.finRange n).foldlM f a) ((List.finRange n).foldlM g b) := by
  induction n generalizing I a b with
  | zero =>
    apply done
    exact start
  | succ n ih =>
    rw [List.finRange_succ, List.foldlM_cons, List.foldlM_cons]
    apply bind (I 1) _ _ _ _ _ (step 0 a b start)
    intro a b related
    rw [List.foldlM_map, List.foldlM_map]
    apply ih (fun k => I (k + 1)) _ related
    intro k a b related
    exact step k.succ a b related

theorem foldlM_range {m : Type → Type} [Monad m] (f : α → Nat → m α) (n : Nat) (a : α) :
    (List.range n).foldlM f a = (List.finRange n).foldlM (fun a k => f a k.val) a := by
  rw [← List.map_coe_finRange_eq_range, List.foldlM_map]

/-- A loop that may fail, but whose rounds do not as long as the invariant holds. -/
theorem foldlM_completes {ε : Type} {f : α → Fin n → Except ε α} (I : Nat → α → Prop)
    (step : ∀ k a, I k.val a → ∃ b, f a k = .ok b ∧ I (k.val + 1) b) {a : α} (start : I 0 a) :
    ∃ b, (List.finRange n).foldlM f a = .ok b ∧ I n b := by
  induction n generalizing I a with
  | zero => exact ⟨a, rfl, start⟩
  | succ n ih =>
    obtain ⟨b, done, kept⟩ := step 0 a start
    rw [List.finRange_succ, List.foldlM_cons, done]
    dsimp only [Bind.bind, Except.bind]
    rw [List.foldlM_map]
    apply ih (fun k => I (k + 1)) _ kept
    intro k a kept
    exact step k.succ a kept

end Vp8
