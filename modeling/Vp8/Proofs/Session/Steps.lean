import Vp8.Proofs.Frame.Lockstep
import Vp8.Session

/-!
The steps of decoding a packet, taken apart: what each of them goes on from and what it takes for
the packet to be accepted.
-/
namespace Vp8

namespace Headers

/-- The compressed header, read with the whole rest of the packet behind it. -/
def compressed (packet : ByteArray) (preamble : Preamble) (carried : Carried) :
    (Except DecodeError FrameHeader × Carried) × BoolReader :=
  (FrameHeader.read preamble.tag.keyframe carried).read
    (.ofBytes (packet.extract preamble.size packet.size))

theorem read_eq (packet : ByteArray) (preamble : Preamble) (carried : Carried) :
    read packet preamble carried = (do
      let header ← (compressed packet preamble carried).1.1
      let partitions ← Partition.split packet preamble.firstPartitionEnd header.partitions
      return {
        tag := preamble.tag, header, partitions
        carried := (compressed packet preamble carried).1.2
        reader := (compressed packet preamble carried).2 }) := rfl

theorem read_ok {packet : ByteArray} {preamble : Preamble} {carried : Carried} {h : Headers} :
    read packet preamble carried = .ok h ↔
      ∃ header partitions, (compressed packet preamble carried).1.1 = .ok header ∧
        Partition.split packet preamble.firstPartitionEnd header.partitions = .ok partitions ∧
        { tag := preamble.tag, header, partitions
          carried := (compressed packet preamble carried).1.2
          reader := (compressed packet preamble carried).2 } = h := by
  rw [read_eq, bind_ok]
  refine exists_congr fun header => ?_
  rw [bind_ok]
  constructor
  · rintro ⟨first, partitions, cut, done⟩
    exact ⟨partitions, first, cut, Except.ok.inj done⟩
  · rintro ⟨partitions, first, cut, rfl⟩
    exact ⟨first, partitions, cut, rfl⟩

end Headers

namespace Stream

theorem allocate_ok {memory : Memory} {size : KeyframeSize} {t : Stream}
    (allocated : allocate memory size = .ok t) : blank size = t := by
  obtain ⟨_, _, done⟩ := bind_ok.mp allocated
  exact Except.ok.inj done

theorem allocate_ample (size : KeyframeSize) : allocate .ample size = .ok (blank size) := by
  unfold allocate
  rw [Memory.reserve_ample]
  rfl

theorem allocate_error {memory : Memory} {size : KeyframeSize} {e : DecodeError}
    (refused : allocate memory size = .error e) : ∃ bytes, e = .allocationFailed bytes := by
  unfold allocate at refused
  cases reserved : memory.reserve
      (PicturePool.blocks (macroblocksFor size.height) (macroblocksFor size.width)) with
  | error e' =>
    rw [reserved] at refused
    cases refused
    obtain ⟨bytes, _, failed⟩ := Memory.reserve_error reserved
    exact ⟨bytes, failed⟩
  | ok =>
    rw [reserved] at refused
    contradiction

theorem configure_ok {limits : Limits} {memory : Memory} {old : Option Stream}
    {size : KeyframeSize} {t : Stream} (configured : configure limits memory old size = .ok t) :
    (∃ u, old = some u ∧ (u.width = size.width ∧ u.height = size.height) ∧
        { u with
          horizontalScale := size.horizontalScale
          verticalScale := size.verticalScale } = t) ∨
      (∀ u, old = some u → ¬ (u.width = size.width ∧ u.height = size.height)) ∧ blank size = t := by
  unfold configure at configured
  split at configured
  · contradiction
  · split at configured
    · exact .inr ⟨nofun, allocate_ok configured⟩
    · rename_i u
      split at configured
      · rename_i same
        exact .inl ⟨u, rfl, same, Except.ok.inj configured⟩
      · rename_i other
        refine .inr ⟨?_, allocate_ok configured⟩
        rintro _ ⟨⟩
        exact other

theorem configure_error {limits : Limits} {memory : Memory} {old : Option Stream}
    {size : KeyframeSize} {e : DecodeError}
    (refused : configure limits memory old size = .error e) :
    ((limits.maxWidth < size.width ∨ limits.maxHeight < size.height) ∧
        e = .dimensionsTooLarge size.width size.height limits.maxWidth limits.maxHeight) ∨
      ¬ (limits.maxWidth < size.width ∨ limits.maxHeight < size.height) ∧
        ∃ bytes, e = .allocationFailed bytes := by
  unfold configure at refused
  split at refused
  · rename_i large
    exact .inl ⟨large, (Except.error.inj refused).symm⟩
  · rename_i fits
    refine .inr ⟨fits, ?_⟩
    split at refused
    · exact allocate_error refused
    · split at refused
      · contradiction
      · exact allocate_error refused

def modes (t : Stream) (h : Headers) :
    Grid (macroblocksFor t.height) (macroblocksFor t.width) × BoolReader :=
  (t.grid.readModes h.modeContext).read h.reader

def conclude (t : Stream) (h : Headers)
    (pool : PicturePool (macroblocksFor t.height) (macroblocksFor t.width))
    (done : Reconstruction (macroblocksFor t.height) (macroblocksFor t.width)) (overrun : Bool) :
    Stream × Except DecodeError Bool :=
  if overrun && h.tag.keyframe then
    let pool := (pool.setPicture .current done.picture).abandon
    ({ t with grid := done.grid, pool }, .error (.corruptFrame .keyframeEndsEarly))
  else
    let picture := finish h done.picture done.grid overrun
    let pool := (pool.setPicture .current picture).commit h.header.references
    ({ t with grid := done.grid, pool }, .ok overrun)

variable {t : Stream} {h : Headers}
  {pool : PicturePool (macroblocksFor t.height) (macroblocksFor t.width)}
  {done : Reconstruction (macroblocksFor t.height) (macroblocksFor t.width)} {overrun : Bool}

theorem conclude_lost (lost : (overrun && h.tag.keyframe) = true) :
    t.conclude h pool done overrun =
      ({ t with grid := done.grid, pool := (pool.setPicture .current done.picture).abandon },
        .error (.corruptFrame .keyframeEndsEarly)) := if_pos lost

theorem conclude_kept (kept : ¬ (overrun && h.tag.keyframe) = true) :
    t.conclude h pool done overrun =
      ({ t with
          grid := done.grid
          pool := (pool.setPicture .current (finish h done.picture done.grid overrun)).commit
            h.header.references },
        .ok overrun) := if_neg kept

theorem decode_eq (t : Stream) (h : Headers) :
    t.decode h =
      match t.pool.acquire with
      | .error e => ({ t with grid := (t.modes h).1 }, .error e)
      | .ok pool =>
        match reconstructFrame (h.setup pool) (pool.picture .current) (t.modes h).1
          h.partitions with
        | .error e => ({ t with grid := (t.modes h).1, pool := pool.abandon }, .error e)
        | .ok done => t.conclude h pool done (done.overrun || (t.modes h).2.overrun) := rfl

theorem decode_of_ok (acquired : t.pool.acquire = .ok pool)
    (reconstructed : reconstructFrame (h.setup pool) (pool.picture .current) (t.modes h).1
      h.partitions = .ok done) :
    t.decode h = t.conclude h pool done (done.overrun || (t.modes h).2.overrun) := by
  rw [decode_eq, acquired]
  dsimp only
  rw [reconstructed]

theorem decode_of_error {e : DecodeError} (acquired : t.pool.acquire = .ok pool)
    (failed : reconstructFrame (h.setup pool) (pool.picture .current) (t.modes h).1
      h.partitions = .error e) :
    t.decode h = ({ t with grid := (t.modes h).1, pool := pool.abandon }, .error e) := by
  rw [decode_eq, acquired]
  dsimp only
  rw [failed]

theorem decode_ok (accepted : (t.decode h).2 = .ok overrun) :
    ∃ pool done, t.pool.acquire = .ok pool ∧
      reconstructFrame (h.setup pool) (pool.picture .current) (t.modes h).1 h.partitions =
        .ok done ∧
      (done.overrun || (t.modes h).2.overrun) = overrun := by
  rw [decode_eq] at accepted
  split at accepted
  · contradiction
  · rename_i pool acquired
    split at accepted
    · contradiction
    · rename_i done reconstructed
      refine ⟨pool, done, acquired, reconstructed, ?_⟩
      by_cases lost :
          ((done.overrun || (t.modes h).2.overrun) && h.tag.keyframe) = true
      · rw [conclude_lost lost] at accepted
        contradiction
      · rw [conclude_kept lost] at accepted
        exact Except.ok.inj accepted

end Stream

namespace Session

variable {s : Session} {memory : Memory} {packet : ByteArray} {frame : Frame}

theorem enter_ok {preamble : Preamble} {t : Stream} {carried : Carried}
    (entered : s.enter memory preamble = .ok (t, carried)) :
    (preamble.keyframeSize = none ∧ s.awaitingKeyframe = false ∧ s.stream = some t ∧
        s.carried = carried) ∨
      ∃ size, preamble.keyframeSize = some size ∧
        Stream.configure s.limits memory s.stream size = .ok t ∧ Carried.default = carried := by
  unfold enter at entered
  split at entered
  · rename_i size sized
    obtain ⟨u, configured, same⟩ := bind_ok.mp entered
    cases same
    exact .inr ⟨size, sized, configured, rfl⟩
  · rename_i sized
    split at entered
    · rename_i awaiting stream
      cases entered
      exact .inl ⟨sized, awaiting, stream, rfl⟩
    · contradiction

theorem enter_error {preamble : Preamble} {e : DecodeError}
    (refused : s.enter memory preamble = .error e) :
    (preamble.keyframeSize = none ∧ e = .missingKeyframe) ∨
      ∃ size, preamble.keyframeSize = some size ∧
        Stream.configure s.limits memory s.stream size = .error e := by
  unfold enter at refused
  split at refused
  · rename_i size sized
    refine .inr ⟨size, sized, ?_⟩
    cases configured : Stream.configure s.limits memory s.stream size with
    | ok t =>
      rw [configured] at refused
      contradiction
    | error e' =>
      rw [configured] at refused
      cases refused
      rfl
  · rename_i sized
    split at refused
    · contradiction
    · exact .inl ⟨sized, (Except.error.inj refused).symm⟩

theorem decodeFrom_ok {preamble : Preamble} {t : Stream} {carried : Carried}
    (accepted : (s.decodeFrom packet preamble t carried).2 = .ok frame) :
    ∃ h, Headers.read packet preamble carried = .ok h ∧ (t.decode h).2 = .ok false ∧
      (s.decodeFrom packet preamble t carried).1.carried = settle s.carried h := by
  unfold decodeFrom at accepted ⊢
  split at accepted
  · contradiction
  · rename_i h read
    refine ⟨h, read, ?_⟩
    split at accepted
    · contradiction
    · contradiction
    · rename_i decoded
      rw [decoded]
      exact ⟨rfl, rfl⟩

theorem decodeFrom_frame {preamble : Preamble} {t : Stream} {carried : Carried} {h : Headers}
    (read : Headers.read packet preamble carried = .ok h)
    (accepted : (s.decodeFrom packet preamble t carried).2 = .ok frame) :
    (t.decode h).1.frame h.tag = frame := by
  unfold decodeFrom at accepted
  rw [read] at accepted
  dsimp only at accepted
  split at accepted
  · contradiction
  · contradiction
  · rename_i decoded
    rw [decoded]
    exact Except.ok.inj accepted

theorem decodePacket_ok (accepted : (s.decodePacket memory packet).2 = .ok frame) :
    ∃ preamble t carried, Preamble.parse packet = .ok preamble ∧
      s.enter memory preamble = .ok (t, carried) ∧
      s.decodePacket memory packet = s.decodeFrom packet preamble t carried := by
  unfold decodePacket at accepted ⊢
  split at accepted
  · contradiction
  · rename_i preamble parsed
    split at accepted
    · contradiction
    · rename_i t carried entered
      exact ⟨preamble, t, carried, parsed, entered, rfl⟩

theorem decode_of_ok (accepted : (s.decodePacket memory packet).2 = .ok frame) :
    s.decode memory packet = s.decodePacket memory packet := by
  unfold decode
  split
  · rename_i decoded
    exact decoded.symm
  · rename_i decoded
    rw [decoded] at accepted
    contradiction

theorem decode_ok (accepted : (s.decode memory packet).2 = .ok frame) :
    (s.decodePacket memory packet).2 = .ok frame ∧
      s.decode memory packet = s.decodePacket memory packet := by
  have inner : (s.decodePacket memory packet).2 = .ok frame := by
    unfold decode at accepted
    split at accepted
    · rename_i decoded
      rw [decoded]
      exact accepted
    · contradiction
  exact ⟨inner, decode_of_ok inner⟩

theorem recover_stream (s : Session) (keyframe : Bool) (e : DecodeError) :
    (s.recover keyframe e).1.stream = s.stream ∨
      (s.recover keyframe e).1.stream = s.stream.map Stream.markLastDamaged := by
  unfold recover
  split
  · exact .inl rfl
  · split
    · exact .inr rfl
    · exact .inl rfl

/-- What the mark does not show in is decided before the error is dealt with. -/
theorem decode_observes {α : Type} (observe : Option Stream → α)
    (marked : ∀ t : Stream, observe (some t.markLastDamaged) = observe (some t)) (s : Session)
    (memory : Memory) (packet : ByteArray) :
    observe (s.decode memory packet).1.stream =
      observe (s.decodePacket memory packet).1.stream := by
  unfold decode
  generalize s.decodePacket memory packet = x
  obtain ⟨u, e | frame⟩ := x
  · obtain same | mark := u.recover_stream (isKeyframe packet) e
    · exact congrArg observe same
    · refine (congrArg observe mark).trans ?_
      change observe (u.stream.map Stream.markLastDamaged) = observe u.stream
      cases u.stream with
      | none => rfl
      | some t => exact marked t
  · rfl

theorem decode_begun (accepted : (s.decode memory packet).2 = .ok frame) :
    ∃ preamble t before h, Preamble.parse packet = .ok preamble ∧
      s.enter memory preamble = .ok (t, before) ∧ Headers.read packet preamble before = .ok h ∧
      (t.decode h).2 = .ok false ∧ (t.decode h).1.frame h.tag = frame := by
  obtain ⟨inner, _⟩ := decode_ok accepted
  obtain ⟨preamble, t, before, parsed, entered, begun⟩ := decodePacket_ok inner
  rw [begun] at inner
  obtain ⟨h, read, decoded, _⟩ := decodeFrom_ok inner
  exact ⟨preamble, t, before, h, parsed, entered, read, decoded, decodeFrom_frame read inner⟩

end Session

/-- A keyframe of one macroblock. It changes one coefficient probability and keeps its tables in
    force. -/
def changingKeyframe : ByteArray :=
  ⟨#[0x50, 0x01, 0x00, 0x9d, 0x01, 0x2a, 0x10, 0x00, 0x10, 0x00,
    0x00, 0x00, 0x00, 0x0c, 0xcf, 0x50, 0x0a, 0xf0, 0xe0, 0x00, 0x00]⟩

def Session.changed : Session := ((start .default).decode .ample changingKeyframe).1

/-- A frame of one macroblock, which is a copy of golden. It replaces no reference. -/
def goldenFrame : ByteArray :=
  ⟨#[0x91, 0x01, 0x00, 0x00, 0x00, 0x00, 0x00, 0x20, 0x00, 0x48, 0x98, 0x18, 0x18, 0x04, 0xd8,
    0x00]⟩

end Vp8
