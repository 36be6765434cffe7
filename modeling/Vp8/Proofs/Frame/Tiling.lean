import Vp8.Proofs.Frame.CheckedPacket
import Vp8.Proofs.Session.Safety

/-!
Packets and their token partitions are the same thing in two forms. To frame partitions is to write
the sizes of all but the last in front of them; a packet is cut into partitions exactly where it is
their framed form, and then nothing of it is left over and no byte belongs to two of them.
-/
namespace Vp8

def word24Bytes (n : Nat) : ByteArray :=
  [n.toUInt8, (n / 256).toUInt8, (n / 65536).toUInt8].toByteArray

theorem word24Bytes_size (n : Nat) : (word24Bytes n).size = 3 := List.size_toByteArray

theorem word24_lt {data : ByteArray} {i : Nat} (inside : i + 3 ≤ data.size) :
    word24 data i inside < 2 ^ 24 := by
  have low := data[i].toNat_lt
  have middle := data[i + 1].toNat_lt
  have high := data[i + 2].toNat_lt
  unfold word24
  omega

theorem word24Bytes_word24 {data : ByteArray} {i : Nat} (inside : i + 3 ≤ data.size) :
    word24Bytes (word24 data i inside) = data.extract i (i + 3) := by
  have low := data[i].toNat_lt
  have middle := data[i + 1].toNat_lt
  have high := data[i + 2].toNat_lt
  rw [ByteArray.extract_add_three inside]
  unfold word24Bytes word24
  congr 1
  simp only [List.cons.injEq, and_true, ← UInt8.toNat_inj, Nat.toUInt8, UInt8.toNat_ofNat']
  omega

theorem word24Bytes_inj {n m : Nat} (small : n < 2 ^ 24) (small' : m < 2 ^ 24)
    (same : word24Bytes n = word24Bytes m) : n = m := by
  have bytes := congrArg (fun b => b.data.toList) same
  simp only [word24Bytes, List.data_toByteArray, List.cons.injEq, and_true,
    ← UInt8.toNat_inj, Nat.toUInt8, UInt8.toNat_ofNat'] at bytes
  omega

namespace Partition

def joined (parts : List ByteArray) : ByteArray := parts.foldr (· ++ ·) .empty

def sizes (parts : List ByteArray) : List Nat := parts.dropLast.map ByteArray.size

def sizeTable (parts : List ByteArray) : ByteArray := joined ((sizes parts).map word24Bytes)

/-- A packet that starts in some way and ends with these partitions. -/
def framed (start : ByteArray) (parts : List ByteArray) : ByteArray :=
  start ++ sizeTable parts ++ joined parts

structure Framable (parts : List ByteArray) : Prop where
  some : parts ≠ []
  filled : ∀ part ∈ parts, 0 < part.size
  small : ∀ size ∈ sizes parts, size < 2 ^ 24

/-- Behind its first bytes, the data is nothing but a table of sizes and so many partitions of these
    sizes; the last one has the size that is left. -/
structure Tiles (data : ByteArray) (start count : Nat) (parts : List ByteArray) : Prop where
  length : parts.length = count
  framable : Framable parts
  inside : start ≤ data.size
  whole : data = framed (data.extract 0 start) parts

theorem joined_cons (part : ByteArray) (parts : List ByteArray) :
    joined (part :: parts) = part ++ joined parts := rfl

theorem sizes_cons (part : ByteArray) {parts : List ByteArray} (some : parts ≠ []) :
    sizes (part :: parts) = part.size :: sizes parts := by
  unfold sizes
  rw [List.dropLast_cons_of_ne_nil some, List.map_cons]

theorem sizes_eq_nil {parts : List ByteArray} (some : parts ≠ []) (none : sizes parts = []) :
    ∃ part, parts = [part] := by
  obtain ⟨part, rest, rfl⟩ := List.exists_cons_of_ne_nil some
  cases rest with
  | nil => exact ⟨part, rfl⟩
  | cons next rest => rw [sizes_cons _ (List.cons_ne_nil _ _)] at none; contradiction

theorem sizes_eq_cons {parts : List ByteArray} {n : Nat} {ns : List Nat}
    (table : sizes parts = n :: ns) :
    ∃ part rest, parts = part :: rest ∧ part.size = n ∧ rest ≠ [] ∧ sizes rest = ns := by
  match parts with
  | [] | [_] => contradiction
  | part :: next :: rest =>
    rw [sizes_cons _ (List.cons_ne_nil _ _)] at table
    obtain ⟨first, others⟩ := List.cons.inj table
    exact ⟨part, next :: rest, rfl, first, List.cons_ne_nil _ _, others⟩

theorem sizes_length (parts : List ByteArray) : (sizes parts).length = parts.length - 1 := by
  unfold sizes
  rw [List.length_map, List.length_dropLast]

section Table

theorem joined_table_size (ns : List Nat) : (joined (ns.map word24Bytes)).size = 3 * ns.length := by
  induction ns with
  | nil => rfl
  | cons n ns ih =>
    rw [List.map_cons, joined_cons, ByteArray.size_append, word24Bytes_size, ih, List.length_cons]
    omega

theorem joined_table_inj {ns ms : List Nat} (length : ns.length = ms.length)
    (small : ∀ n ∈ ns, n < 2 ^ 24) (small' : ∀ m ∈ ms, m < 2 ^ 24)
    (same : joined (ns.map word24Bytes) = joined (ms.map word24Bytes)) : ns = ms := by
  induction ns generalizing ms with
  | nil => exact (List.length_eq_zero_iff.mp length.symm).symm
  | cons n ns ih =>
    cases ms with
    | nil => contradiction
    | cons m ms =>
      rw [List.map_cons, List.map_cons, joined_cons, joined_cons,
        ByteArray.append_eq_append_iff_of_size_eq_left
          (by rw [word24Bytes_size, word24Bytes_size])] at same
      have first := word24Bytes_inj (small n (by simp)) (small' m (by simp)) same.1
      have rest := ih (Nat.succ.inj length) (fun k hk => small k (by simp [hk]))
        (fun k hk => small' k (by simp [hk])) same.2
      rw [first, rest]

theorem joined_words {data : ByteArray} {start k : Nat} (inside : start + 3 * k ≤ data.size) :
    joined ((List.ofFn fun i : Fin k => word24 data (start + 3 * i) (by omega)).map word24Bytes) =
      data.extract start (start + 3 * k) := by
  induction k generalizing start with
  | zero => exact ByteArray.extract_same.symm
  | succ k ih =>
    have rest := @ih (start + 3) (by omega)
    have shift : start + 3 * (k + 1) = start + 3 + 3 * k := by omega
    rw [List.ofFn_succ, List.map_cons, joined_cons, shift,
      ByteArray.extract_eq_extract_append_extract (start + 3) (by omega) (by omega), ← rest]
    congr 1
    · exact word24Bytes_word24 _
    · congr 4
      funext i
      congr 1
      simp only [Fin.val_succ]
      omega

end Table

variable {data : ByteArray} {start : Nat}

theorem stretch_size (data : ByteArray) (start : Nat) {stop : Nat} (inside : stop ≤ data.size) :
    (data.extract start stop).size = stop - start := by
  rw [ByteArray.size_extract, Nat.min_eq_left inside]

theorem cut_ok_iff (number : Nat) (inside : start ≤ data.size) (ns : List Nat)
    (parts : List ByteArray) :
    cut data number start ns = .ok parts ↔
      parts ≠ [] ∧ (∀ part ∈ parts, 0 < part.size) ∧ sizes parts = ns ∧
        joined parts = data.extract start data.size := by
  induction ns generalizing number start parts with
  | nil =>
    have rest := stretch_size data start (Nat.le_refl data.size)
    unfold cut
    constructor
    · intro done
      split at done
      · contradiction
      · cases done
        refine ⟨List.cons_ne_nil _ _, ?_, rfl, ByteArray.append_empty⟩
        intro part member
        rw [List.mem_singleton.mp member, rest]
        omega
    · rintro ⟨some, filled, alone, whole⟩
      obtain ⟨part, rfl⟩ := sizes_eq_nil some alone
      obtain rfl : part = data.extract start data.size := ByteArray.append_empty.symm.trans whole
      have positive := filled _ (List.mem_singleton.mpr rfl)
      rw [rest] at positive
      exact if_neg (by omega)
  | cons n ns ih =>
    have two (fits : start + n ≤ data.size) :=
      ByteArray.extract_eq_extract_append_extract (a := data) (start + n) (Nat.le_add_right _ _)
        fits
    unfold cut
    constructor
    · intro done
      split at done
      · contradiction
      · have first := stretch_size data start (show start + n ≤ data.size by omega)
        rw [Nat.add_sub_cancel_left] at first
        obtain ⟨rest, cut, done⟩ := bind_ok.mp done
        cases done
        obtain ⟨some, filled, table, whole⟩ := (ih (number + 1) (by omega) rest).mp cut
        refine ⟨List.cons_ne_nil _ _, ?_, ?_, ?_⟩
        · intro part member
          rcases List.mem_cons.mp member with rfl | member
          · omega
          · exact filled part member
        · rw [sizes_cons _ some, first, table]
        · rw [joined_cons, whole, two (by omega)]
    · rintro ⟨some, filled, table, whole⟩
      obtain ⟨part, rest, rfl, rfl, more, others⟩ := sizes_eq_cons table
      have positive := filled part (by simp)
      have long := congrArg ByteArray.size whole
      rw [joined_cons, ByteArray.size_append, stretch_size _ _ (Nat.le_refl _)] at long
      have first := stretch_size data start (show start + part.size ≤ data.size by omega)
      rw [joined_cons, two (by omega), ByteArray.append_eq_append_iff_of_size_eq_left
        (by rw [first, Nat.add_sub_cancel_left])] at whole
      have cut := (ih (number + 1) (by omega) rest).mpr
        ⟨more, fun part member => filled part (by simp [member]), others, whole.2⟩
      rw [if_neg (by omega), cut, ← whole.1]
      rfl

theorem sizeTable_size (parts : List ByteArray) :
    (sizeTable parts).size = 3 * (parts.length - 1) := by
  unfold sizeTable
  rw [joined_table_size, sizes_length]

theorem split_ok_iff (data : ByteArray) (start : Nat) {count : Nat} (last : 1 ≤ count)
    (parts : List ByteArray) :
    split data start count = .ok parts ↔ Tiles data start count parts := by
  unfold split
  dsimp only
  split
  · rename_i room
    -- the data in three pieces, for comparison with what is framed
    have pieces : data = data.extract 0 start ++ data.extract start (start + 3 * (count - 1)) ++
        data.extract (start + 3 * (count - 1)) data.size := by
      rw [← ByteArray.extract_eq_extract_append_extract start (Nat.zero_le _) (by omega),
        ← ByteArray.extract_eq_extract_append_extract _ (Nat.zero_le _) room,
        ByteArray.extract_zero_size]
    have words := joined_words room
    rw [cut_ok_iff _ room]
    constructor
    · rintro ⟨some, filled, table, whole⟩
      have length := congrArg List.length table
      rw [sizes_length, List.length_ofFn] at length
      have positive := List.length_pos_iff.mpr some
      refine ⟨by omega, ⟨some, filled, ?_⟩, by omega, ?_⟩
      · rw [table]
        intro size member
        obtain ⟨i, rfl⟩ := List.mem_ofFn.mp member
        exact word24_lt _
      · unfold framed sizeTable
        rw [table, words, whole]
        exact pieces
    · rintro ⟨rfl, framable, inside, whole⟩
      have same := pieces.symm.trans whole
      unfold framed at same
      rw [ByteArray.append_assoc, ByteArray.append_assoc,
        ByteArray.append_eq_append_iff_of_size_eq_left rfl,
        ByteArray.append_eq_append_iff_of_size_eq_left
          (by rw [stretch_size _ _ room, sizeTable_size, Nat.add_sub_cancel_left])] at same
      refine ⟨framable.some, framable.filled, ?_, same.2.2.symm⟩
      apply joined_table_inj
      · rw [sizes_length, List.length_ofFn]
      · exact framable.small
      · intro size member
        obtain ⟨i, rfl⟩ := List.mem_ofFn.mp member
        exact word24_lt _
      · exact (words.trans same.2.1).symm
  · rename_i short
    constructor
    · intro done
      contradiction
    · rintro ⟨rfl, framable, inside, whole⟩
      have size := congrArg ByteArray.size whole
      unfold framed at size
      rw [ByteArray.size_append, ByteArray.size_append, sizeTable_size,
        ByteArray.size_extract] at size
      omega

theorem tiles_framed (first : ByteArray) {parts : List ByteArray} (framable : Framable parts) :
    Tiles (framed first parts) first.size parts.length parts := by
  have start : (framed first parts).extract 0 first.size = first := by
    unfold framed
    rw [ByteArray.append_assoc]
    exact ByteArray.extract_append_eq_left rfl
  refine ⟨rfl, framable, ?_, ?_⟩
  · unfold framed
    rw [ByteArray.size_append, ByteArray.size_append]
    omega
  · rw [start]

/-- The end of the first partition lies behind the packet only on keyframes, whose preamble is
    longer than the tag that its size is measured from. -/
theorem late_start_keyframe {preamble : Preamble} (parsed : Preamble.parse data = .ok preamble)
    (late : data.size < preamble.firstPartitionEnd) : preamble.tag.keyframe = true := by
  obtain ⟨tag, tagged, _, size, done⟩ := Preamble.parse_ok.mp parsed
  have long := FrameTag.parse_long tagged
  split at done
  · rename_i keyframe
    obtain ⟨_, _, _, rfl⟩ := Preamble.parseKeyframe_ok done
    exact keyframe
  · cases done
    unfold Preamble.firstPartitionEnd at late
    dsimp only at late
    omega

theorem split_late (count : Nat) (late : data.size < start) :
    split data start count = .error (.corruptFrame .truncatedPartitionSizes) := by
  unfold split
  exact dif_neg (by omega)

/-- A packet is accepted exactly if it is tiled: by what stands in front of the token partitions,
    the table of their sizes, and the partitions in order, none of them empty. Any other packet is
    refused as damaged, no slice leaves its bytes either way, and partitions that were framed are
    found again. -/
theorem packets_are_tiled {preamble : Preamble} (parsed : Preamble.parse data = .ok preamble)
    {count : Nat} (last : 1 ≤ count) :
    let start := preamble.firstPartitionEnd
    (∀ parts, split data start count = .ok parts ↔ Tiles data start count parts) ∧
      ((∀ parts, ¬ Tiles data start count parts) →
        ∃ damage, split data start count = .error (.corruptFrame damage)) ∧
      split? data start count = some (split data start count) ∧
      (data.size < start → preamble.tag.keyframe = true ∧
        split data start count = .error (.corruptFrame .truncatedPartitionSizes)) ∧
      ∀ first parts, Framable parts →
        split (framed first parts) first.size parts.length = .ok parts := by
  intro start
  refine ⟨split_ok_iff data start last, fun other => ?_, split?_eq data start last, fun late => ?_,
    fun first parts framable => ?_⟩
  · cases answer : split data start count with
    | error e =>
      obtain ⟨damage, rfl, _⟩ := split_corrupts data start count e answer
      exact ⟨damage, rfl⟩
    | ok parts => exact absurd ((split_ok_iff data start last parts).mp answer) (other parts)
  · exact ⟨late_start_keyframe parsed late, split_late count late⟩
  · exact (split_ok_iff _ _ (List.length_pos_iff.mpr framable.some) parts).mpr
      (tiles_framed first framable)

def interPreamble : Preamble where
  tag := { keyframe := false, version := 0, shown := true, firstPartitionSize := 2 }
  keyframeSize := none
  size := 3

def pairParts : List ByteArray := [⟨#[1, 2]⟩, ⟨#[3, 4, 5]⟩]

def pairPacket : ByteArray := ⟨#[0x51, 0, 0, 0xaa, 0xbb, 2, 0, 0, 1, 2, 3, 4, 5]⟩

theorem pair_is_tiled :
    Preamble.parse pairPacket = .ok interPreamble ∧ 1 ≤ 2 ∧ Framable pairParts ∧
      Tiles pairPacket 5 2 pairParts ∧ split pairPacket 5 2 = .ok pairParts := by
  have parsed : Preamble.parse pairPacket = .ok interPreamble := by decide +kernel
  have framable : Framable pairParts := ⟨by decide, by decide, by decide⟩
  obtain ⟨accepted, _, _, _, found⟩ := packets_are_tiled parsed (show 1 ≤ 2 by decide)
  have whole : pairPacket = framed ⟨#[0x51, 0, 0, 0xaa, 0xbb]⟩ pairParts := by decide +kernel
  have split := found ⟨#[0x51, 0, 0, 0xaa, 0xbb]⟩ pairParts framable
  rw [← whole] at split
  exact ⟨parsed, by decide, framable, (accepted pairParts).mp split, split⟩

end Partition

end Vp8
