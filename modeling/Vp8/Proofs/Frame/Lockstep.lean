import Vp8.Proofs.Loops

/-!
Two computations side by side, each of which may fail.
-/
namespace Vp8

variable {ε α σ τ ι : Type}

theorem ok_of_toBool {x : Except ε α} (succeeds : x.toBool = true) : ∃ a, x = .ok a := by
  cases x with
  | error e => contradiction
  | ok a => exact ⟨a, rfl⟩

theorem ok_of_toOption {x : Except ε α} {a : α} (there : x.toOption = some a) : x = .ok a := by
  cases x with
  | error e => contradiction
  | ok b => exact congrArg Except.ok (Option.some.inj there)

theorem bind_ok {x : Except ε α} {f : α → Except ε σ} {b : σ} :
    (x >>= f) = .ok b ↔ ∃ a, x = .ok a ∧ f a = .ok b := by
  cases x with
  | error e => exact ⟨nofun, nofun⟩
  | ok a =>
    constructor
    · exact fun done => ⟨a, rfl, done⟩
    · rintro ⟨_, ⟨⟩, done⟩
      exact done

/-- What the first computation does without a loss the second one does as well. -/
def Follows (lost : σ → Prop) (R : σ → τ → Prop) (x : Except ε σ) (y : Except ε τ) : Prop :=
  ∀ p, x = .ok p → ¬ lost p → ∃ q, y = .ok q ∧ R p q

theorem foldlM_keeps {P : σ → Prop} {step : σ → ι → Except ε σ}
    (keeps : ∀ p i p', step p i = .ok p' → P p → P p') {is : List ι} {p p' : σ}
    (done : is.foldlM step p = .ok p') (start : P p) : P p' := by
  induction is generalizing p with
  | nil =>
    cases done
    exact start
  | cons i is ih =>
    rw [List.foldlM_cons] at done
    obtain ⟨next, first, done⟩ := bind_ok.mp done
    exact ih done (keeps p i next first start)

theorem Follows.foldlM {lost : σ → Prop} {R : σ → τ → Prop} {step : σ → ι → Except ε σ}
    {step' : τ → ι → Except ε τ} (keeps : ∀ p i p', step p i = .ok p' → lost p → lost p')
    (follows : ∀ p q i, R p q → Follows lost R (step p i) (step' q i)) (is : List ι) {p : σ} {q : τ}
    (related : R p q) : Follows lost R (is.foldlM step p) (is.foldlM step' q) := by
  induction is generalizing p q with
  | nil =>
    intro p' done _
    cases done
    exact ⟨q, rfl, related⟩
  | cons i is ih =>
    intro p' done whole
    rw [List.foldlM_cons] at done ⊢
    obtain ⟨next, first, done⟩ := bind_ok.mp done
    have kept : ¬ lost next := fun loss => whole (foldlM_keeps keeps done loss)
    obtain ⟨next', first', related'⟩ := follows p q i related next first kept
    rw [first']
    exact ih related' p' done whole

/-- A loop that comes to its end, beside one that cannot fail. -/
theorem foldlM_beside {n : Nat} {f : σ → Fin n → Except ε σ} {g : τ → Fin n → τ}
    (I : Nat → σ → τ → Prop)
    (step : ∀ k p q p', I k.val p q → f p k = .ok p' → I (k.val + 1) p' (g q k)) {p p' : σ} {q : τ}
    (start : I 0 p q) (done : (List.finRange n).foldlM f p = .ok p') :
    I n p' ((List.finRange n).foldl g q) := by
  induction n generalizing I p q with
  | zero =>
    cases done
    exact start
  | succ n ih =>
    rw [List.finRange_succ, List.foldlM_cons] at done
    obtain ⟨next, first, done⟩ := bind_ok.mp done
    rw [List.foldlM_map] at done
    rw [List.finRange_succ, List.foldl_cons, List.foldl_map]
    apply ih (fun k => I (k + 1)) _ (step 0 p q next start first) done
    intro k p q p' related
    exact step k.succ p q p' related

theorem foldlM_invariant {n : Nat} {f : σ → Fin n → Except ε σ} (I : Nat → σ → Prop)
    (step : ∀ k p q, I k.val p → f p k = .ok q → I (k.val + 1) q) {p q : σ} (start : I 0 p)
    (done : (List.finRange n).foldlM f p = .ok q) : I n q := by
  have beside := foldlM_beside (g := fun (u : Unit) _ => u) (q := ()) (fun k p _ => I k p)
    (fun k p _ q => step k p q) start done
  exact beside

inductive Outcome (R : σ → τ → Prop) : Except ε σ → Except ε τ → Prop where
  | ok {p : σ} {q : τ} (related : R p q) : Outcome R (.ok p) (.ok q)
  | error (e : ε) : Outcome R (.error e) (.error e)

namespace Outcome

theorem refl (x : Except ε σ) : Outcome Eq x x := by
  cases x with
  | ok a => exact .ok rfl
  | error e => exact .error e

theorem mono {R S : σ → τ → Prop} {x : Except ε σ} {y : Except ε τ} (outcome : Outcome R x y)
    (weaker : ∀ p q, R p q → S p q) : Outcome S x y := by
  cases outcome with
  | ok related => exact .ok (weaker _ _ related)
  | error e => exact .error e

theorem bind {σ' τ' : Type} {R : σ → τ → Prop} {S : σ' → τ' → Prop} {x : Except ε σ}
    {y : Except ε τ} {f : σ → Except ε σ'} {g : τ → Except ε τ'} (outcome : Outcome R x y)
    (next : ∀ p q, R p q → Outcome S (f p) (g q)) : Outcome S (x >>= f) (y >>= g) := by
  cases outcome with
  | ok related => exact next _ _ related
  | error e => exact .error e

theorem foldlM {n : Nat} {f : σ → Fin n → Except ε σ} {g : τ → Fin n → Except ε τ}
    (I : Nat → σ → τ → Prop)
    (step : ∀ k p q, I k.val p q → Outcome (I (k.val + 1)) (f p k) (g q k)) {p : σ} {q : τ}
    (start : I 0 p q) :
    Outcome (I n) ((List.finRange n).foldlM f p) ((List.finRange n).foldlM g q) := by
  apply foldlM_related Outcome _ _ I step start
  · intro R p q related
    exact .ok related
  · intro R S x y f g outcome next
    exact outcome.bind next

theorem foldlM_drop {n : Nat} {f : σ → Fin n → Except ε σ} {g : τ → Fin n → Except ε τ}
    (I : Nat → σ → τ → Prop)
    (step : ∀ k p q, I k.val p q → Outcome (I (k.val + 1)) (f p k) (g q k)) {k : Nat} (le : k ≤ n)
    {p : σ} {q : τ} (here : I k p q) :
    Outcome (I n) (((List.finRange n).drop k).foldlM f p)
      (((List.finRange n).drop k).foldlM g q) := by
  induction le using Nat.decreasingInduction generalizing p q with
  | self =>
    rw [List.drop_eq_nil_of_le (by rw [List.length_finRange])]
    exact .ok here
  | of_succ k lt ih =>
    rw [List.drop_eq_getElem_cons (by rwa [List.length_finRange]), List.getElem_finRange,
      List.foldlM_cons, List.foldlM_cons]
    apply (step ⟨k, lt⟩ p q here).bind
    intro p q next
    exact ih next

end Outcome

end Vp8
