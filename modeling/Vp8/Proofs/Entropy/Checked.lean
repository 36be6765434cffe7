import Vp8.Proofs.Checked
import Vp8.Proofs.Entropy.Coded

/-!
Coded values that may turn out not to be there, and those that always are.
-/
namespace Vp8

namespace Coded

variable {α β γ : Type}

theorem bind_pure (t : Coded α) : t >>= pure = t := by
  induction t with
  | value a => rfl
  | choice prob next ih => exact congrArg (choice prob) (funext ih)

theorem bind_assoc (t : Coded α) (f : α → Coded β) (g : β → Coded γ) :
    t >>= f >>= g = t >>= fun a => f a >>= g := by
  induction t with
  | value a => rfl
  | choice prob next ih => exact congrArg (choice prob) (funext ih)

instance : LawfulMonad Coded := LawfulMonad.mk' Coded bind_pure (fun _ _ => rfl) bind_assoc

def sure (t : Coded α) : OptionT Coded α := OptionT.lift t

theorem sure_pure (a : α) : sure (pure a) = pure a := rfl

theorem sure_bind (t : Coded α) (f : α → Coded β) :
    sure (t >>= f) = sure t >>= fun a => sure (f a) := by
  induction t with
  | value a => rfl
  | choice prob next ih => exact congrArg (choice prob) (funext ih)

theorem sure_ite (c : Prop) [Decidable c] (t u : Coded α) :
    sure (if c then t else u) = if c then sure t else sure u := by
  split <;> rfl

theorem foldlM_sure {ι : Type} {f? : α → ι → OptionT Coded α} {f : α → ι → Coded α}
    (step : ∀ a i, f? a i = sure (f a i)) (is : List ι) (a : α) :
    is.foldlM f? a = sure (is.foldlM f a) := by
  induction is generalizing a with
  | nil => rfl
  | cons i is ih =>
    rw [List.foldlM_cons, List.foldlM_cons, sure_bind, step]
    congr 1
    funext b
    exact ih b

theorem readEach_sure {n : Nat} (xs : Vector α n) {f? : (i : Nat) → α → i < n → OptionT Coded β}
    {f : Fin n → α → Coded β} (step : ∀ i a h, f? i a h = sure (f ⟨i, h⟩ a)) :
    xs.mapFinIdxM f? = sure (readEach xs f) := by
  have rest (left done : Nat) (all : left + done = n) (ys : Vector β (n - left)) :
      Vector.mapFinIdxM.map xs f? left done all ys =
        sure (Vector.mapFinIdxM.map xs (fun i a h => f ⟨i, h⟩ a) left done all ys) := by
    induction left generalizing done with
    | zero => rfl
    | succ left ih =>
      unfold Vector.mapFinIdxM.map
      rw [sure_bind]
      dsimp only
      rw [step]
      congr 1
      funext b
      exact ih _ _ _
  exact rest n 0 _ _

theorem Yields.bind_sure {P : α → Prop} {t : Coded α} {f? : α → OptionT Coded β} {f : α → Coded β}
    (yields : t.Yields P) (step : ∀ a, P a → f? a = sure (f a)) :
    sure t >>= f? = sure (t >>= f) := by
  induction t with
  | value a => exact step a yields
  | choice prob next ih => exact congrArg (choice prob) (funext fun bit => ih bit (yields bit))

def read? (t : OptionT Coded α) (r : BoolReader) : Option (α × BoolReader) :=
  (t.run.read r).1.map fun a => (a, (t.run.read r).2)

theorem read?_sure (t : Coded α) (r : BoolReader) : read? (sure t) r = some (t.read r) := by
  have run : (sure t).run.read r = (some (t.read r).1, (t.read r).2) := read_bind t _ r
  unfold read?
  rw [run]
  rfl

end Coded

end Vp8
