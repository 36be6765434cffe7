import Vp8.Frame.Preamble

/-!
Token partitions. Behind the first partition stands a table with the size of every token partition
but the last, three bytes each, and then the partitions themselves; the last one takes what is left.
No partition may be empty.
-/
namespace Vp8.Partition

/-- Cut off one partition for every size, then take the rest as the last one. -/
def cut (data : ByteArray) (number start : Nat) : List Nat → Except DecodeError (List ByteArray)
  | [] =>
    if data.size - start = 0 then .error (.corruptFrame (.partitionLength number))
    else .ok [data.extract start data.size]
  | size :: sizes =>
    if size = 0 ∨ data.size - start < size then
      .error (.corruptFrame (.partitionLength number))
    else do
      let rest ← cut data (number + 1) (start + size) sizes
      return data.extract start (start + size) :: rest

def split (data : ByteArray) (start count : Nat) : Except DecodeError (List ByteArray) :=
  let tableSize := 3 * (count - 1)
  if inside : start + tableSize ≤ data.size then
    let sizes := List.ofFn fun i : Fin (count - 1) =>
      word24 data (start + 3 * i) (by have := i.isLt; simp only [tableSize] at inside; omega)
    cut data 1 (start + tableSize) sizes
  else .error (.corruptFrame .truncatedPartitionSizes)

end Vp8.Partition
