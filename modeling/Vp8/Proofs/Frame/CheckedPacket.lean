import Vp8.Frame.Partition
import Vp8.Frame.Preamble
import Vp8.Proofs.Checked
import Vp8.Proofs.Frame.Preamble

/-!
Taking a packet apart with every access checked: bytes of the preamble, and the slices that the
partitions are. No packet of any length is read beyond its end, whatever sizes it states.
-/
namespace Vp8

/-- What is read from a packet, or the reason why it is refused. Nothing if the packet is read where
    it has no bytes. -/
abbrev Parsed (α : Type) := ExceptT DecodeError Option α

def Parsed.lookUp (x : Option α) : Parsed α := x.map .ok

def slice? (data : ByteArray) (start stop : Nat) : Option ByteArray :=
  demand (start ≤ stop ∧ stop ≤ data.size) fun _ => data.extract start stop

def word16? (data : ByteArray) (i : Nat) : Option Nat := do
  let low ← data[i]?
  let high ← data[i + 1]?
  return low.toNat + 256 * high.toNat

def word24? (data : ByteArray) (i : Nat) : Option Nat := do
  let low ← data[i]?
  let middle ← data[i + 1]?
  let high ← data[i + 2]?
  return low.toNat + 256 * middle.toNat + 65536 * high.toNat

def remaining? (data : ByteArray) (start : Nat) : Option Nat :=
  demand (start ≤ data.size) fun _ => data.size - start

open Parsed

def FrameTag.parse? (data : ByteArray) : Parsed FrameTag :=
  if data.size < 3 then throw (.corruptFrame .truncatedPacket)
  else do return ofWord (← lookUp (word24? data 0))

namespace Preamble

def parseKeyframe? (tag : FrameTag) (data : ByteArray) : Parsed Preamble :=
  if data.size < 10 then throw (.corruptFrame .truncatedKeyframeHeader)
  else do
    let first ← lookUp data[3]?
    let second ← lookUp data[4]?
    let third ← lookUp data[5]?
    if first = 0x9d ∧ second = 0x01 ∧ third = 0x2a then
      let w ← lookUp (word16? data 6)
      let h ← lookUp (word16? data 8)
      let size := KeyframeSize.ofWords w h
      if size.width = 0 ∨ size.height = 0 then throw (.invalidDimensions size.width size.height)
      else return { tag, keyframeSize := some size, size := keyframePreambleSize }
    else throw (.unsupportedFeature .startCode)

def parse? (data : ByteArray) : Parsed Preamble := do
  let tag ← FrameTag.parse? data
  if 3 < tag.version then throw (.unsupportedFeature (.version tag.version))
  else
    let remaining ← lookUp (remaining? data tagSize)
    if remaining < tag.firstPartitionSize then throw (.corruptFrame .truncatedFirstPartition)
    else if tag.keyframe then parseKeyframe? tag data
    else return { tag, keyframeSize := none, size := tagSize }

end Preamble

namespace Partition

def cut? (data : ByteArray) (number start : Nat) : List Nat → Parsed (List ByteArray)
  | [] => do
    let remaining ← lookUp (remaining? data start)
    if remaining = 0 then throw (.corruptFrame (.partitionLength number))
    else return [← lookUp (slice? data start (start + remaining))]
  | size :: sizes => do
    let remaining ← lookUp (remaining? data start)
    if size = 0 ∨ remaining < size then throw (.corruptFrame (.partitionLength number))
    else
      let part ← lookUp (slice? data start (start + size))
      return part :: (← cut? data (number + 1) (start + size) sizes)

def split? (data : ByteArray) (start count : Nat) : Parsed (List ByteArray) := do
  let tableSize ← lookUp (demand (1 ≤ count) fun _ => 3 * (count - 1))
  if data.size < start + tableSize then throw (.corruptFrame .truncatedPartitionSizes)
  else
    let table ← lookUp (slice? data start (start + tableSize))
    let sizes ← lookUp (Vector.ofFnM fun i : Fin (count - 1) => word24? table (3 * i.val))
    cut? data 1 (start + tableSize) sizes.toList

end Partition

variable {data : ByteArray}

theorem byte?_eq {i : Nat} (inside : i < data.size) : data[i]? = some data[i] :=
  getElem?_pos data i inside

theorem word16?_eq {i : Nat} (inside : i + 2 ≤ data.size) :
    word16? data i = some (word16 data i inside) := by
  unfold word16?
  rw [byte?_eq (by omega), byte?_eq (by omega)]
  rfl

theorem word24?_eq {i : Nat} (inside : i + 3 ≤ data.size) :
    word24? data i = some (word24 data i inside) := by
  unfold word24?
  rw [byte?_eq (by omega), byte?_eq (by omega), byte?_eq (by omega)]
  rfl

theorem remaining?_eq {start : Nat} (inside : start ≤ data.size) :
    remaining? data start = some (data.size - start) := demand_eq inside _

theorem slice?_eq {start stop : Nat} (ordered : start ≤ stop) (inside : stop ≤ data.size) :
    slice? data start stop = some (data.extract start stop) := demand_eq ⟨ordered, inside⟩ _

theorem FrameTag.parse?_eq (data : ByteArray) : parse? data = some (parse data) := by
  unfold parse? parse
  by_cases long : 3 ≤ data.size
  · rw [if_neg (Nat.not_lt.mpr long), dif_pos long, word24?_eq long]
    rfl
  · rw [if_pos (Nat.not_le.mp long), dif_neg long]
    rfl

namespace Preamble

theorem parseKeyframe?_eq (tag : FrameTag) (data : ByteArray) :
    parseKeyframe? tag data = some (parseKeyframe tag data) := by
  unfold parseKeyframe? parseKeyframe
  by_cases long : 10 ≤ data.size
  · rw [if_neg (Nat.not_lt.mpr long), dif_pos long, byte?_eq (by omega), byte?_eq (by omega),
      byte?_eq (by omega)]
    change (if data[3] = 0x9d ∧ data[4] = 0x01 ∧ data[5] = 0x2a then _ else _) =
      some (if data[3] = 0x9d ∧ data[4] = 0x01 ∧ data[5] = 0x2a then _ else _)
    split
    · rw [word16?_eq (by omega), word16?_eq (by omega)]
      change (if _ ∨ _ then _ else _) = some (if _ ∨ _ then _ else _)
      split <;> rfl
    · rfl
  · rw [if_pos (Nat.not_le.mp long), dif_neg long]
    rfl

theorem parse?_eq (data : ByteArray) : parse? data = some (parse data) := by
  unfold parse?
  rw [FrameTag.parse?_eq]
  unfold parse
  cases tagged : FrameTag.parse data with
  | error e => rfl
  | ok tag =>
    have long := FrameTag.parse_long tagged
    change (if 3 < tag.version then _ else _) = some (if 3 < tag.version then _ else _)
    split
    · rfl
    · rw [remaining?_eq long]
      change (if data.size - tagSize < tag.firstPartitionSize then _ else _) =
        some (if data.size - tagSize < tag.firstPartitionSize then _ else _)
      split
      · rfl
      · change (if tag.keyframe = true then _ else _) = some (if tag.keyframe = true then _ else _)
        split
        · exact parseKeyframe?_eq tag data
        · rfl

end Preamble

namespace Partition

theorem cut?_eq (number : Nat) {start : Nat} (inside : start ≤ data.size) (sizes : List Nat) :
    cut? data number start sizes = some (cut data number start sizes) := by
  induction sizes generalizing number start with
  | nil =>
    unfold cut? cut
    rw [remaining?_eq inside]
    change (if _ then _ else _) = some (if _ then _ else _)
    split
    · rfl
    · rw [slice?_eq (by omega) (by omega), Nat.add_sub_cancel' inside]
      rfl
  | cons size sizes ih =>
    unfold cut? cut
    rw [remaining?_eq inside]
    change (if _ ∨ _ then _ else _) = some (if _ ∨ _ then _ else _)
    split
    · rfl
    · have rest : cut? data (number + 1) (start + size) sizes =
          some (cut data (number + 1) (start + size) sizes) := ih (number + 1) (by omega)
      rw [slice?_eq (by omega) (by omega)]
      change (cut? data (number + 1) (start + size) sizes >>= fun rest => return _ :: rest) = _
      rw [rest]
      cases cut data (number + 1) (start + size) sizes with
      | error e => rfl
      | ok rest => rfl

theorem split?_eq (data : ByteArray) (start : Nat) {count : Nat} (last : 1 ≤ count) :
    split? data start count = some (split data start count) := by
  unfold split? split
  rw [demand_eq last]
  change (if data.size < start + 3 * (count - 1) then _ else _) = _
  by_cases inside : start + 3 * (count - 1) ≤ data.size
  · have size : (data.extract start (start + 3 * (count - 1))).size = 3 * (count - 1) := by
      rw [ByteArray.size_extract]
      omega
    have entry (i : Fin (count - 1)) :
        word24? (data.extract start (start + 3 * (count - 1))) (3 * i.val) =
          some (word24 data (start + 3 * i) (by omega)) := by
      rw [word24?_eq (by rw [size]; omega)]
      unfold word24
      rw [ByteArray.getElem_extract, ByteArray.getElem_extract, ByteArray.getElem_extract]
      rfl
    rw [if_neg (by omega), slice?_eq (by omega) inside]
    change (lookUp (Vector.ofFnM fun i : Fin (count - 1) =>
      word24? (data.extract start (start + 3 * (count - 1))) (3 * i.val)) >>= _) = _
    rw [ofFnM_some entry]
    change cut? data 1 (start + 3 * (count - 1)) _ = _
    rw [cut?_eq 1 inside, Vector.toList_ofFn]
    simp only [inside, dite_true]
  · rw [if_pos (by omega)]
    simp only [inside, dite_false]
    rfl

end Partition

end Vp8
