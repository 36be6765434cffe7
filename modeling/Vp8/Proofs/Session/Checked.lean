import Vp8.Proofs.Deblocking.Checked
import Vp8.Proofs.Entropy.Checked
import Vp8.Proofs.Frame.Checked
import Vp8.Proofs.Frame.CheckedPacket
import Vp8.Proofs.Frame.Header
import Vp8.Proofs.Macroblock.Checked
import Vp8.Proofs.Session.Completion
import Vp8.Proofs.Session.Equivalence

/-!
Decoding a packet with every access checked. A session gives nothing where the packet, the pictures,
the grid or a table is read out of range, where no picture is free, no partition or no source is
there, and where a frame was counted that no stream can show. Wherever the pool counts its
references and the pictures have a size, none of this happens.
-/
namespace Vp8

namespace Headers

def read? (packet : ByteArray) (preamble : Preamble) (carried : Carried) : Parsed Headers := do
  let rest ← Parsed.lookUp (slice? packet preamble.size packet.size)
  let ((header, carried), reader) :=
    (FrameHeader.read preamble.tag.keyframe carried).read (.ofBytes rest)
  let header ← ofExcept header
  let partitions ← Partition.split? packet preamble.firstPartitionEnd header.partitions
  return { tag := preamble.tag, header, carried, partitions, reader }

theorem read?_eq {packet : ByteArray} {preamble : Preamble} (inside : preamble.size ≤ packet.size)
    (carried : Carried) : read? packet preamble carried = some (read packet preamble carried) := by
  have last := (FrameHeader.read_partitions preamble.tag.keyframe carried).read
    (.ofBytes (packet.extract preamble.size packet.size))
  change ∀ header, (compressed packet preamble carried).1.1 = .ok header → _ at last
  unfold read?
  rw [slice?_eq inside (Nat.le_refl _), read_eq]
  change (ofExcept (compressed packet preamble carried).1.1 >>= fun header =>
    Partition.split? packet preamble.firstPartitionEnd header.partitions >>= fun partitions =>
      return { tag := preamble.tag, header, partitions
               carried := (compressed packet preamble carried).1.2
               reader := (compressed packet preamble carried).2 } : Parsed Headers) = _
  cases first : (compressed packet preamble carried).1.1 with
  | error e => rfl
  | ok header =>
    change (Partition.split? packet preamble.firstPartitionEnd header.partitions >>= _) =
      some (Partition.split packet preamble.firstPartitionEnd header.partitions >>= _)
    rw [Partition.split?_eq _ _ (last header first)]
    cases Partition.split packet preamble.firstPartitionEnd header.partitions with
    | error e => rfl
    | ok partitions => rfl

end Headers

namespace Stream

def finish? {rows cols : Nat} (h : Headers) (picture : Picture rows cols) (grid : Grid rows cols)
    (overrun : Bool) : Option (Picture rows cols) := do
  let settings := FilterSettings.ofHeader h.header.filterLevel h.header.sharpness
    h.header.filterKind h.tag.keyframe
  let level := FilterLevel.ofMacroblock h.header.filterLevel h.carried.segmentation
    h.carried.adjustment
  let picture ← picture.deblock? settings level grid
  let picture ← picture.extend?
  return { picture with damaged := picture.damaged || overrun }

def decode? (t : Stream) (h : Headers) : Option (Stream × Except DecodeError Bool) := do
  let (grid, reader) ← Coded.read? (t.grid.readModes? h.modeContext) h.reader
  let pool ← t.pool.acquire.toOption
  let done ← reconstructFrame? (h.setup pool) (pool.picture .current) grid h.partitions
  let overrun := done.overrun || reader.overrun
  if overrun && h.tag.keyframe then
    let pool := (pool.setPicture .current done.picture).abandon
    return ({ t with grid := done.grid, pool }, .error (.corruptFrame .keyframeEndsEarly))
  else
    let picture ← finish? h done.picture done.grid overrun
    let pool := (pool.setPicture .current picture).commit h.header.references
    return ({ t with grid := done.grid, pool }, .ok overrun)

theorem finish?_eq {rows cols : Nat} (h : Headers) (picture : Picture rows cols)
    (grid : Grid rows cols) (overrun : Bool) :
    finish? h picture grid overrun = some (finish h picture grid overrun) := by
  unfold finish?
  dsimp only
  rw [Picture.deblock?_eq]
  dsimp only [Option.bind_eq_bind, Option.bind_some]
  rw [Picture.extend?_eq]
  rfl

theorem decode?_eq {t : Stream} {h : Headers} (balanced : t.pool.Balanced) (visible : t.Visible)
    (some : h.partitions ≠ []) : t.decode? h = .some (t.decode h) := by
  -- a pool that counts its references has a target, and a source for every macroblock
  obtain ⟨pool, acquired, has⟩ := PicturePool.acquire_balanced balanced
  obtain ⟨done, reconstructed, _⟩ :=
    reconstructFrame_completes (h.setup_full has) (pool.picture .current) (t.modes h).1 some
  have shape : Plane.Visible (macroblocksFor t.width) (macroblocksFor t.height) :=
    ⟨macroblocksFor_pos visible.1, macroblocksFor_pos visible.2⟩
  have free : t.pool.acquire.toOption = .some pool := by rw [acquired]; rfl
  rw [decode_of_ok acquired reconstructed]
  unfold decode?
  rw [Grid.readModes?_eq, Coded.read?_sure, free]
  dsimp only [Option.bind_eq_bind, Option.bind_some]
  have frame := reconstructFrame?_eq shape reconstructed
  unfold modes at frame
  rw [frame]
  dsimp only [Option.bind_some]
  unfold conclude modes
  split
  · rfl
  · rw [finish?_eq]
    rfl

end Stream

def isKeyframe? (packet : ByteArray) : Option Bool :=
  if packet.size < tagSize then return false
  else do
    let first ← packet[0]?
    return first % 2 == 0

theorem isKeyframe?_eq (packet : ByteArray) : isKeyframe? packet = some (isKeyframe packet) := by
  unfold isKeyframe? isKeyframe
  by_cases long : tagSize ≤ packet.size
  · have first : 0 < packet.size := Nat.lt_of_lt_of_le (by decide) long
    rw [if_neg (Nat.not_lt.mpr long), byte?_eq first, decide_eq_true long, Bool.true_and]
    unfold BoolReader.byteAt
    rw [dif_pos first]
    rfl
  · rw [if_pos (Nat.not_le.mp long), decide_eq_false long, Bool.false_and]
    rfl

namespace Session

def decodeFrom? (s : Session) (packet : ByteArray) (preamble : Preamble) (t : Stream)
    (carried : Carried) : Option (Session × Except DecodeError FrameTag) := do
  match ← Headers.read? packet preamble carried with
  | .error e => return ({ s with stream := some t }, .error e)
  | .ok h =>
    match ← t.decode? h with
    | (t, .error e) => return ({ s with stream := some t }, .error e)
    | (t, .ok true) =>
      return ({ s with stream := some t, carried := settle s.carried h },
        .error (.corruptFrame .frameEndsEarly))
    | (t, .ok false) =>
      return ({ s with
          stream := some t
          carried := settle s.carried h
          awaitingKeyframe := s.awaitingKeyframe && !h.tag.keyframe },
        .ok h.tag)

def decodePacket? (s : Session) (memory : Memory) (packet : ByteArray) :
    Option (Session × Except DecodeError FrameTag) := do
  match ← Preamble.parse? packet with
  | .error e => return (s, .error e)
  | .ok preamble =>
    match s.enter memory preamble with
    | .error e => return (s.giveUp e, .error e)
    | .ok (t, carried) => s.decodeFrom? packet preamble t carried

def show? : Session × Except DecodeError FrameTag → Option (Session × Except DecodeError Frame)
  | (s, .error e) => return (s, .error e)
  | (s, .ok tag) => do
    let s := { s with frameCount := s.frameCount + 1 }
    let t ← s.stream
    return (s, .ok (t.frame tag))

def decode? (s : Session) (memory : Memory) (packet : ByteArray) :
    Option (Session × Except DecodeError Frame) := do
  let keyframe ← isKeyframe? packet
  match ← show? (← s.decodePacket? memory packet) with
  | (s, .ok frame) => return (s, .ok frame)
  | (s, .error e) =>
    let (s, e) := s.recover keyframe e
    return (s, .error e)

variable {s : Session}

theorem decodeFrom?_eq {packet : ByteArray} {preamble : Preamble} {t : Stream}
    (inside : preamble.size ≤ packet.size) (balanced : t.pool.Balanced) (visible : t.Visible)
    (carried : Carried) :
    (s.decodeFrom? packet preamble t carried).bind show? =
      some (s.decodeFrom packet preamble t carried) := by
  unfold decodeFrom? decodeFrom
  rw [Headers.read?_eq inside]
  dsimp only [Option.bind_eq_bind, Option.bind_some]
  cases read : Headers.read packet preamble carried with
  | error e => rfl
  | ok h =>
    dsimp only
    rw [Stream.decode?_eq balanced visible (Headers.read_partitions read)]
    dsimp only [Option.bind_some]
    generalize t.decode h = decoded
    obtain ⟨u, e | _ | _⟩ := decoded <;> rfl

theorem decodePacket?_eq (balanced : s.Balanced) (visible : s.Keeps Stream.Visible)
    (memory : Memory) (packet : ByteArray) :
    (s.decodePacket? memory packet).bind show? = some (s.decodePacket memory packet) := by
  unfold decodePacket? decodePacket
  rw [Preamble.parse?_eq]
  dsimp only [Option.bind_eq_bind, Option.bind_some]
  cases parsed : Preamble.parse packet with
  | error e => rfl
  | ok preamble =>
    dsimp only
    cases entered : s.enter memory preamble with
    | error e => rfl
    | ok entry =>
      exact decodeFrom?_eq (Preamble.parse_inside parsed)
        (enter_keeps Stream.balanced_invariant balanced parsed entered)
        (enter_keeps Stream.visible_invariant visible parsed entered) entry.2

theorem decode?_eq (balanced : s.Balanced) (visible : s.Keeps Stream.Visible) (memory : Memory)
    (packet : ByteArray) : s.decode? memory packet = some (s.decode memory packet) := by
  have decoded := decodePacket?_eq balanced visible memory packet
  unfold decode? decode
  rw [isKeyframe?_eq]
  dsimp only [Option.bind_eq_bind, Option.bind_some]
  rw [← Option.bind_assoc, decoded]
  dsimp only [Option.bind_some]
  generalize s.decodePacket memory packet = decoded
  obtain ⟨u, e | frame⟩ := decoded <;> rfl

end Session

end Vp8
