import Vp8.Entropy.Coded
import Vp8.Proofs.Loops

/-!
Reading coded values: one branch at a time, in sequence, and two values side by side that ask for
the same choices. What holds at the end of every path holds of what is read.
-/
namespace Vp8.Coded

variable {α β γ δ : Type}

theorem read_choice (prob : UInt8) (next : Bool → Coded α) (r : BoolReader) :
    (choice prob next).read r = (next (r.read prob).1).read (r.read prob).2 := by
  rw [read]

theorem read_bind (t : Coded α) (f : α → Coded β) (r : BoolReader) :
    (t >>= f).read r = (f (t.read r).1).read (t.read r).2 := by
  induction t generalizing r with
  | value a => rfl
  | choice prob next ih =>
    change (choice prob fun bit => (next bit).bind f).read r = _
    rw [read_choice, read_choice]
    exact ih _ _

def Yields (P : α → Prop) : Coded α → Prop
  | value a => P a
  | choice _ next => ∀ bit, Yields P (next bit)

namespace Yields

variable {P : α → Prop} {Q : β → Prop}

theorem bind {t : Coded α} {f : α → Coded β} (yields : t.Yields P)
    (next : ∀ a, P a → (f a).Yields Q) : (t >>= f).Yields Q := by
  induction t with
  | value a => exact next a yields
  | choice prob branch ih => exact fun bit => ih bit (yields bit)

theorem after (t : Coded α) {f : α → Coded β} (next : ∀ a, (f a).Yields Q) :
    (t >>= f).Yields Q := by
  induction t with
  | value a => exact next a
  | choice prob branch ih => exact fun bit => ih bit

theorem mono {P' : α → Prop} {t : Coded α} (yields : t.Yields P) (weaker : ∀ a, P a → P' a) :
    t.Yields P' := by
  induction t with
  | value a => exact weaker a yields
  | choice prob next ih => exact fun bit => ih bit (yields bit)

theorem foldlM {n : Nat} {f : α → Fin n → Coded α} (I : Nat → α → Prop)
    (step : ∀ k a, I k.val a → (f a k).Yields (I (k.val + 1))) {a : α} (start : I 0 a) :
    ((List.finRange n).foldlM f a).Yields (I n) := by
  induction n generalizing I a with
  | zero => exact start
  | succ n ih =>
    rw [List.finRange_succ, List.foldlM_cons]
    apply (step 0 a start).bind
    intro b kept
    rw [List.foldlM_map]
    apply ih (fun k => I (k + 1)) _ kept
    intro k a kept
    exact step k.succ a kept

theorem read {t : Coded α} (yields : t.Yields P) (r : BoolReader) : P (t.read r).1 := by
  induction t generalizing r with
  | value a => exact yields
  | choice prob next ih =>
    rw [read_choice]
    exact ih _ (yields _) _

end Yields

/-- The same choices lead to related values. -/
inductive Related (R : α → β → Prop) : Coded α → Coded β → Prop where
  | value {a : α} {b : β} (related : R a b) : Related R (value a) (value b)
  | choice {prob : UInt8} {next : Bool → Coded α} {next' : Bool → Coded β}
    (related : ∀ bit, Related R (next bit) (next' bit)) :
    Related R (choice prob next) (choice prob next')

namespace Related

variable {R : α → β → Prop} {S : γ → δ → Prop}

theorem refl (t : Coded α) : Related Eq t t := by
  induction t with
  | value a => exact .value rfl
  | choice prob next ih => exact .choice ih

theorem eq {t u : Coded α} (related : Related Eq t u) : t = u := by
  induction related with
  | value same => rw [same]
  | choice _ ih => exact congrArg _ (funext ih)

theorem mono {R' : α → β → Prop} {t : Coded α} {u : Coded β} (related : Related R t u)
    (weaker : ∀ a b, R a b → R' a b) : Related R' t u := by
  induction related with
  | value holds => exact .value (weaker _ _ holds)
  | choice _ ih => exact .choice ih

theorem bind {t : Coded α} {u : Coded β} {f : α → Coded γ} {g : β → Coded δ}
    (related : Related R t u) (next : ∀ a b, R a b → Related S (f a) (g b)) :
    Related S (t >>= f) (u >>= g) := by
  induction related with
  | value holds => exact next _ _ holds
  | choice _ ih => exact .choice ih

theorem bind_same (t : Coded α) {f : α → Coded γ} {g : α → Coded δ}
    (next : ∀ a, Related S (f a) (g a)) : Related S (t >>= f) (t >>= g) := by
  apply (refl t).bind
  rintro a _ rfl
  exact next a

/-- Looking at what was read asks for no choice. -/
theorem bind_value (t : Coded α) {f : α → γ} {S : γ → α → Prop} (same : ∀ a, S (f a) a) :
    Related S (t >>= fun a => pure (f a)) t := by
  induction t with
  | value a => exact .value (same a)
  | choice prob next ih => exact .choice ih

theorem yields {t : Coded α} {u : Coded β} {P : α → Prop} (related : Related R t u)
    (each : t.Yields P) : u.Yields fun b => ∃ a, R a b ∧ P a := by
  induction related with
  | value holds => exact ⟨_, holds, each⟩
  | choice _ ih => exact fun bit => ih bit (each bit)

theorem read {t : Coded α} {u : Coded β} (related : Related R t u) (r : BoolReader) :
    R (t.read r).1 (u.read r).1 ∧ (t.read r).2 = (u.read r).2 := by
  induction related generalizing r with
  | value holds => exact ⟨holds, rfl⟩
  | choice _ ih =>
    rw [read_choice, read_choice]
    exact ih _ _

theorem foldlM {n : Nat} {f : α → Fin n → Coded α} {g : β → Fin n → Coded β}
    (I : Nat → α → β → Prop)
    (step : ∀ k a b, I k.val a b → Related (I (k.val + 1)) (f a k) (g b k)) {a : α} {b : β}
    (start : I 0 a b) :
    Related (I n) ((List.finRange n).foldlM f a) ((List.finRange n).foldlM g b) := by
  apply foldlM_related Related _ _ I step start
  · intro R a b holds
    exact .value holds
  · intro R S x y f g related next
    exact related.bind next

end Related

end Vp8.Coded
