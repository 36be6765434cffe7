import Mathlib.Data.List.Forall2
import Vp8.Frame.Partition
import Vp8.Proofs.Entropy.Extension
import Vp8.Proofs.Frame.Preamble

/-!
Packets that go on behind their token partitions: only the last partition grows.
-/
namespace Vp8

variable {data : ByteArray}

theorem extract_append (rest : ByteArray) {start stop : Nat} (inside : stop ≤ data.size) :
    (data ++ rest).extract start stop = data.extract start stop := by
  have none : rest.extract (start - data.size) (stop - data.size) = ByteArray.empty :=
    ByteArray.extract_eq_empty_iff.mpr (by omega)
  rw [ByteArray.extract_append, none, ByteArray.append_empty]

theorem extract_begins (rest : ByteArray) (start : Nat) :
    Begins (data.extract start data.size) ((data ++ rest).extract start (data ++ rest).size) := by
  by_cases inside : start ≤ data.size
  · have longer : data.size ≤ (data ++ rest).size := by rw [ByteArray.size_append]; omega
    refine ⟨rest, ?_⟩
    rw [ByteArray.extract_eq_extract_append_extract data.size inside longer,
      extract_append rest (Nat.le_refl _),
      ByteArray.extract_append_eq_right rfl ByteArray.size_append]
  · rw [ByteArray.extract_eq_empty_iff.mpr (show min data.size data.size ≤ start by omega)]
    exact ⟨_, ByteArray.empty_append.symm⟩

namespace Partition

theorem cut_append (rest : ByteArray) {number start : Nat} {sizes : List Nat}
    {parts : List ByteArray} (done : cut data number start sizes = .ok parts) :
    ∃ longer, cut (data ++ rest) number start sizes = .ok longer ∧
      List.Forall₂ Begins parts longer := by
  induction sizes generalizing number start parts with
  | nil =>
    unfold cut at done ⊢
    split at done
    · contradiction
    · rename_i some
      rw [if_neg (by rw [ByteArray.size_append]; omega)]
      cases done
      exact ⟨_, rfl, .cons (extract_begins rest start) .nil⟩
  | cons size sizes ih =>
    unfold cut at done ⊢
    split at done
    · contradiction
    · rename_i some
      rw [if_neg (by rw [ByteArray.size_append]; omega)]
      cases later : cut data (number + 1) (start + size) sizes with
      | error e => rw [later] at done; contradiction
      | ok others =>
        rw [later] at done
        cases done
        obtain ⟨longer, cut, begins⟩ := ih later
        rw [cut]
        refine ⟨_, rfl, .cons ?_ begins⟩
        rw [extract_append rest (by omega)]
        exact Begins.refl _

theorem split_append (rest : ByteArray) {start count : Nat}
    {parts : List ByteArray} (done : split data start count = .ok parts) :
    ∃ longer, split (data ++ rest) start count = .ok longer ∧
      List.Forall₂ Begins parts longer := by
  unfold split at done ⊢
  simp only at done ⊢
  split at done
  · rename_i inside
    rw [dif_pos (by rw [ByteArray.size_append]; omega)]
    have table (i : Fin (count - 1)) : start + 3 * i.val + 3 ≤ data.size := by omega
    rw [funext fun i => word24_append rest (table i) _]
    exact cut_append rest done
  · contradiction

end Partition

end Vp8
