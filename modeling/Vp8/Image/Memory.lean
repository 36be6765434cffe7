import Vp8.Error

/-!
Memory as the pictures of a stream see it: a row of requests, of which any may be refused.
-/
namespace Vp8

/-- What memory answers in one call: whether it grants the request of each number. -/
abbrev Memory := Nat → Bool

namespace Memory

def ample : Memory := fun _ => true

def reserve (memory : Memory) (sizes : List Nat) : Except DecodeError Unit :=
  match sizes.zipIdx.find? fun request => !memory request.2 with
  | some request => .error (.allocationFailed request.1)
  | none => .ok ()

theorem reserve_ample (sizes : List Nat) : ample.reserve sizes = .ok () := by
  unfold reserve
  rw [List.find?_eq_none.mpr fun _ _ granted => by contradiction]

theorem reserve_error {memory : Memory} {sizes : List Nat} {e : DecodeError}
    (refused : memory.reserve sizes = .error e) :
    ∃ bytes ∈ sizes, e = .allocationFailed bytes := by
  unfold reserve at refused
  split at refused
  · rename_i request found
    have asked := List.mem_of_find?_eq_some found
    exact ⟨request.1, List.fst_mem_of_mem_zipIdx asked, (Except.error.inj refused).symm⟩
  · contradiction

end Memory

end Vp8
