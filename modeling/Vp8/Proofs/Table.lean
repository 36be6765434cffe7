import Vp8.Table

/-!
Entries of a table after one of them was replaced.
-/
namespace Vp8

variable {α β : Type} {n : Nat}

theorem get_replaceAt (xs : Vector α n) (i j : Fin n) (a : α) :
    (replaceAt xs i a).get j = if i = j then a else xs.get j := by
  change (xs.set i.val a)[j.val] = if i = j then a else xs[j.val]
  rw [Vector.getElem_set]
  simp only [Fin.ext_iff]

@[simp] theorem get_replaceAt_self (xs : Vector α n) (i : Fin n) (a : α) :
    (replaceAt xs i a).get i = a := by
  rw [get_replaceAt, if_pos rfl]

theorem get_replaceAt_of_ne (xs : Vector α n) {i j : Fin n} (a : α) (other : i ≠ j) :
    (replaceAt xs i a).get j = xs.get j := by
  rw [get_replaceAt, if_neg other]

theorem replaceAt_related {R : α → β → Prop} {xs : Vector α n} {ys : Vector β n}
    (related : ∀ k, R (xs.get k) (ys.get k)) (i : Fin n) {a : α} {b : β} (new : R a b) (k : Fin n) :
    R ((replaceAt xs i a).get k) ((replaceAt ys i b).get k) := by
  rw [get_replaceAt, get_replaceAt]
  split
  · exact new
  · exact related k

theorem get_map (f : α → β) (xs : Vector α n) (k : Fin n) : (xs.map f).get k = f (xs.get k) := by
  change (xs.map f)[k.val] = f xs[k.val]
  rw [Vector.getElem_map]

theorem get_ofFn (f : Fin n → α) (k : Fin n) : (Vector.ofFn f).get k = f k :=
  Vector.getElem_ofFn k.isLt

@[simp] theorem get_replicate (a : α) (k : Fin n) : (Vector.replicate n a).get k = a :=
  Vector.getElem_replicate k.isLt

theorem ext_get {xs ys : Vector α n} (same : ∀ k, xs.get k = ys.get k) : xs = ys :=
  Vector.ext fun k lt => same ⟨k, lt⟩

theorem replaceAt_get (xs : Vector α n) (i : Fin n) : replaceAt xs i (xs.get i) = xs := by
  apply ext_get
  intro k
  rw [get_replaceAt]
  split
  · rename_i same
    rw [same]
  · rfl

end Vp8
