import Mathlib.Data.Fin.SuccPred

/-!
Programs that stop where a condition does not hold, and what they do if it always does.
-/
namespace Vp8

variable {α β : Type} {n : Nat}

def demand (P : Prop) [Decidable P] (f : P → α) : Option α := if h : P then some (f h) else none

theorem demand_eq {P : Prop} [Decidable P] (h : P) (f : P → α) : demand P f = some (f h) :=
  dif_pos h

theorem foldlM_some {f? : α → Fin n → Option α} {f : α → Fin n → α}
    (step : ∀ a k, f? a k = some (f a k)) (a : α) :
    Fin.foldlM n f? a = some (Fin.foldl n f a) := by
  have same : f? = fun a k => pure (f a k) := by
    funext a k
    exact step a k
  rw [same]
  exact Fin.foldlM_pure

/-- Loops whose rounds may fail: as far as they do not, nothing is refused. -/
theorem foldlM_of_ok {ε ι : Type} {f? : α → ι → Option α} {f : α → ι → Except ε α}
    (step : ∀ a i b, f a i = .ok b → f? a i = some b) {is : List ι} {a b : α}
    (done : is.foldlM f a = .ok b) : is.foldlM f? a = some b := by
  induction is generalizing a with
  | nil => exact congrArg some (Except.ok.inj done)
  | cons i is ih =>
    rw [List.foldlM_cons] at done ⊢
    cases first : f a i with
    | error e =>
      rw [first] at done
      contradiction
    | ok c =>
      rw [first] at done
      rw [step a i c first]
      exact ih done

theorem ofFnM_some {f? : Fin n → Option α} {f : Fin n → α} (each : ∀ i, f? i = some (f i)) :
    Vector.ofFnM f? = some (.ofFn f) := by
  have same : f? = fun i => pure (f i) := by
    funext i
    exact each i
  rw [same]
  exact Vector.ofFnM_pure

end Vp8
