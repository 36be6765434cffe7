import Vp8.Proofs.Session.Rejection
import Vp8.Proofs.Session.Truncation

/-!
How far the header and the modes of a frame reach. They are read from all that stands behind the
preamble, and only its end is a limit: a frame that is accepted kept within it, and kept within its
first partition exactly if a reader of that partition alone has enough data.
-/
namespace Vp8

theorem Partition.split_inside {data : ByteArray} {start count : Nat} {parts : List ByteArray}
    (done : split data start count = .ok parts) : start ≤ data.size := by
  unfold split at done
  dsimp only at done
  split at done
  · omega
  · contradiction

theorem BoolReader.ofBytes_data (data : ByteArray) : (ofBytes data).data = data :=
  (ofBytes_mirrors data).2

namespace Preamble

/-- What stands behind the preamble, up to the end that its tag declares for the first
    partition. -/
def firstPartition (p : Preamble) (packet : ByteArray) : ByteArray :=
  packet.extract p.size p.firstPartitionEnd

def remainder (p : Preamble) (packet : ByteArray) : ByteArray := packet.extract p.size packet.size

variable {p : Preamble} {packet : ByteArray}

theorem remainder_size (p : Preamble) (packet : ByteArray) :
    (p.remainder packet).size = packet.size - p.size := by
  unfold remainder
  rw [ByteArray.size_extract, Nat.min_self]

theorem firstPartition_size (inside : p.firstPartitionEnd ≤ packet.size) :
    (p.firstPartition packet).size = p.tag.firstPartitionSize := by
  unfold firstPartition
  rw [ByteArray.size_extract, Nat.min_eq_left inside]
  exact Nat.add_sub_cancel_left ..

theorem firstPartition_begins (inside : p.firstPartitionEnd ≤ packet.size) :
    Begins (p.firstPartition packet) (p.remainder packet) := by
  have start : p.size ≤ p.firstPartitionEnd := Nat.le_add_right ..
  exact ⟨_, ByteArray.extract_eq_extract_append_extract _ start inside⟩

end Preamble

namespace Stream

/-- All that the first partition of a frame codes: its header with the carried values it updates,
    and the modes of its macroblocks, if the header is in order. -/
def codedModes (t : Stream) (tag : FrameTag) (carried : Carried) :
    Coded ((Except DecodeError FrameHeader × Carried) ×
      Grid (macroblocksFor t.height) (macroblocksFor t.width)) := do
  let (header, carried) ← FrameHeader.read tag.keyframe carried
  match header with
  | .error e => return ((.error e, carried), t.grid)
  | .ok header =>
    let grid ← t.grid.readModes {
      keyframe := tag.keyframe, header
      segmentation := carried.segmentation, entropy := carried.entropy }
    return ((.ok header, carried), grid)

theorem codedModes_read (t : Stream) {packet : ByteArray} {preamble : Preamble}
    {carried : Carried} {h : Headers} (read : Headers.read packet preamble carried = .ok h) :
    (t.codedModes preamble.tag carried).read (.ofBytes (preamble.remainder packet)) =
      (((.ok h.header, h.carried), (t.modes h).1), (t.modes h).2) := by
  obtain ⟨header, partitions, first, _, rfl⟩ := Headers.read_ok.mp read
  have begun : (FrameHeader.read preamble.tag.keyframe carried).read
      (.ofBytes (preamble.remainder packet)) = Headers.compressed packet preamble carried := rfl
  unfold codedModes
  rw [Coded.read_bind, begun]
  generalize Headers.compressed packet preamble carried = x at first
  obtain ⟨⟨answer, updated⟩, reader⟩ := x
  cases first
  dsimp only
  rw [Coded.read_bind]
  rfl

end Stream

namespace Session

variable {s : Session} {memory : Memory} {packet : ByteArray} {frame : Frame}

theorem decode_overran (reachable : s.Reachable) {preamble : Preamble} {t : Stream}
    {before : Carried} {h : Headers} (parsed : Preamble.parse packet = .ok preamble)
    (entered : s.enter memory preamble = .ok (t, before))
    (read : Headers.read packet preamble before = .ok h) (beyond : (t.modes h).2.overrun = true) :
    (s.decode memory packet).2 =
      .error (if isKeyframe packet then .corruptKeyframe .keyframeEndsEarly
        else .corruptFrame .frameEndsEarly) := by
  have balanced := enter_keeps Stream.balanced_invariant reachable.balanced parsed entered
  obtain ⟨pool, done, _, _, decoded, _⟩ :=
    Stream.decode_completes balanced (Headers.read_partitions read)
  rw [beyond, Bool.or_true] at decoded
  have tag : h.tag.keyframe = isKeyframe packet := by
    rw [Headers.read_tag read, (Preamble.parse_keyframe parsed).1]
  unfold decode decodePacket
  rw [parsed]
  dsimp only
  rw [entered]
  dsimp only
  unfold decodeFrom
  rw [read]
  dsimp only
  rw [decoded]
  cases keyframe : isKeyframe packet with
  | true =>
    rw [keyframe] at tag
    rw [Stream.conclude_lost (by rw [tag]; rfl)]
    exact congrArg Except.error (recover_error _ true _)
  | false =>
    rw [keyframe] at tag
    rw [Stream.conclude_kept (by rw [tag]; exact Bool.false_ne_true)]
    exact congrArg Except.error (recover_error _ false _)

/-- The header and the modes of a packet that is accepted end before the last byte of the packet.
    They end before the last byte of its first partition exactly if a reader of that partition alone
    has enough data, and then they are what that reader reads; nothing else keeps the decoder from
    taking them from the token partitions. Where they go beyond the end of the packet, it is refused
    as damaged. -/
theorem modes_end_within_packet (reachable : s.Reachable) (memory : Memory)
    (packet : ByteArray) :
    (∀ frame, (s.decode memory packet).2 = .ok frame →
      ∃ preamble t before h, Preamble.parse packet = .ok preamble ∧
        s.enter memory preamble = .ok (t, before) ∧ Headers.read packet preamble before = .ok h ∧
        let used := (t.modes h).2.shifted
        let own := (t.codedModes preamble.tag before).read
          (.ofBytes (preamble.firstPartition packet))
        preamble.firstPartitionEnd ≤ packet.size ∧
          used + 8 ≤ 8 * (packet.size - preamble.size) ∧
          (used + 8 ≤ 8 * preamble.tag.firstPartitionSize ↔ own.2.overrun = false) ∧
          (own.2.overrun = false →
            own.1 = ((.ok h.header, h.carried), (t.modes h).1) ∧ own.2.shifted = used)) ∧
      ∀ preamble t before h, Preamble.parse packet = .ok preamble →
        s.enter memory preamble = .ok (t, before) → Headers.read packet preamble before = .ok h →
        (t.modes h).2.overrun = true →
        (s.decode memory packet).2 =
          .error (if isKeyframe packet then .corruptKeyframe .keyframeEndsEarly
            else .corruptFrame .frameEndsEarly) := by
  constructor
  · intro frame accepted
    obtain ⟨preamble, t, before, h, parsed, entered, read, decoded, _⟩ := decode_begun accepted
    obtain ⟨_, _, _, _, whole⟩ := Stream.decode_ok decoded
    rw [Bool.or_eq_false_iff] at whole
    have inside : preamble.firstPartitionEnd ≤ packet.size := by
      obtain ⟨_, _, _, cut, _⟩ := Headers.read_ok.mp read
      exact Partition.split_inside cut
    refine ⟨preamble, t, before, h, parsed, entered, read, ?_⟩
    have same := t.codedModes_read read
    have size := ((t.codedModes preamble.tag before).read_later
      (.ofBytes (preamble.remainder packet))).1
    -- the longer reader is the one of the decoder, the shorter one is held against it
    have more := BoolReader.ofBytes_extends (Preamble.firstPartition_begins inside)
    have within := (t.codedModes preamble.tag before).within_iff more
    rw [same, BoolReader.ofBytes_data, Preamble.firstPartition_size inside] at within
    refine ⟨inside, ?_, within, fun alone => ?_⟩
    · have enough := whole.2
      rw [same, BoolReader.ofBytes_data] at size
      rw [Bool.eq_false_iff, Ne, BoolReader.overrun_iff, size, Preamble.remainder_size] at enough
      omega
    · obtain ⟨equal, after⟩ := (t.codedModes preamble.tag before).read_extends more alone
      have shifted := after.shifted_eq
      rw [same] at equal shifted
      exact ⟨equal.symm, shifted.symm⟩
  · intro preamble t before h parsed entered read beyond
    exact decode_overran reachable parsed entered read beyond

/-- A keyframe of one macroblock that declares a first partition of two bytes, too few for its
    header. -/
def shortKeyframe : ByteArray :=
  ⟨#[0x50, 0x00, 0x00, 0x9d, 0x01, 0x2a, 0x10, 0x00, 0x10, 0x00,
    0x00, 0x00, 0x00, 0x0c, 0xcf, 0x50, 0x0a, 0xf0, 0xe0, 0x00, 0x00]⟩

theorem short_accepted : ((start .default).decode .ample shortKeyframe).2.toBool = true := by
  decide +kernel

theorem modes_end_within_short_keyframe :
    ∃ preamble t before h, Preamble.parse shortKeyframe = .ok preamble ∧
      (start .default).enter .ample preamble = .ok (t, before) ∧
      Headers.read shortKeyframe preamble before = .ok h ∧
      (t.modes h).2.shifted + 8 ≤ 8 * (shortKeyframe.size - preamble.size) := by
  obtain ⟨frame, accepted⟩ := ok_of_toBool short_accepted
  obtain ⟨preamble, t, before, h, parsed, entered, read, _, within, _⟩ :=
    (modes_end_within_packet (.start .default) .ample shortKeyframe).1 frame accepted
  exact ⟨preamble, t, before, h, parsed, entered, read, within⟩

def shortPreamble : Preamble where
  tag := { keyframe := true, version := 0, shown := true, firstPartitionSize := 2 }
  keyframeSize := some ⟨16, 16, 0, 0⟩
  size := 10

/-- A keyframe is accepted though its header and modes take more bits than its first partition
    has. -/
theorem modes_pass_first_partition :
    ∃ frame preamble t before h, ((start .default).decode .ample shortKeyframe).2 = .ok frame ∧
      Preamble.parse shortKeyframe = .ok preamble ∧
      (start .default).enter .ample preamble = .ok (t, before) ∧
      Headers.read shortKeyframe preamble before = .ok h ∧
      8 * preamble.tag.firstPartitionSize < (t.modes h).2.shifted + 8 := by
  obtain ⟨frame, accepted⟩ := ok_of_toBool short_accepted
  obtain ⟨preamble, t, before, h, parsed, entered, read, _⟩ := decode_begun accepted
  refine ⟨frame, preamble, t, before, h, accepted, parsed, entered, read, ?_⟩
  have first : Preamble.parse shortKeyframe = .ok shortPreamble := by decide +kernel
  cases Except.ok.inj (first.symm.trans parsed)
  have blank : (start .default).enter .ample shortPreamble =
      .ok (Stream.blank ⟨16, 16, 0, 0⟩, .default) := by
    change (Stream.allocate .ample ⟨16, 16, 0, 0⟩ >>= _) = _
    rw [Stream.allocate_ample]
    rfl
  cases Except.ok.inj (blank.symm.trans entered)
  have used := congrArg (fun x => x.2.shifted)
    ((Stream.blank ⟨16, 16, 0, 0⟩).codedModes_read read)
  rw [← used]
  decide +kernel

end Session

end Vp8
