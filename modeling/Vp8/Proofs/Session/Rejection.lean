import Vp8.Proofs.Frame.Marks
import Vp8.Proofs.Frame.Preamble
import Vp8.Proofs.Session.Completion

/-!
Packets that are refused before their frame takes the place of a reference. If such a packet is no
keyframe, it leaves the session as it was, but for a mark of damage on the last reference, and marks
only show in the marks of later frames.
-/
namespace Vp8

def Frame.unmarked (f : Frame) : Frame := { f with picture := f.picture.unmarked }

namespace Stream

abbrev unmarked (t : Stream) : Stream := { t with pool := t.pool.unmarked }

theorem unmarked_unmarked (t : Stream) : t.unmarked.unmarked = t.unmarked := by
  unfold unmarked
  rw [PicturePool.unmarked_unmarked]

theorem frame_unmarked (t : Stream) (tag : FrameTag) :
    t.unmarked.frame tag = (t.frame tag).unmarked := by
  unfold frame Frame.unmarked
  dsimp only
  rw [← PicturePool.shownPicture_unmarked]

theorem unmarked_markLastDamaged (t : Stream) : t.markLastDamaged.unmarked = t.unmarked := by
  unfold markLastDamaged unmarked
  rw [PicturePool.unmarked_markDamaged]

theorem setup_unmarked (h : Headers) (pool : PicturePool rows cols) :
    h.setup pool.unmarked = (h.setup pool).unmarked := by
  unfold Headers.setup
  rw [PicturePool.reference?_unmarked, PicturePool.reference?_unmarked,
    PicturePool.reference?_unmarked]
  rfl

def Forgets (x y : Stream × Except DecodeError Bool) : Prop :=
  x.2 = y.2 ∧ x.1.unmarked = y.1.unmarked

theorem conclude_unmarked (t : Stream) (h : Headers)
    (pool : PicturePool (macroblocksFor t.height) (macroblocksFor t.width))
    (done : Reconstruction (macroblocksFor t.height) (macroblocksFor t.width)) (overrun : Bool) :
    Forgets (t.unmarked.conclude h pool.unmarked done.unmarked overrun)
      (t.conclude h pool done overrun) := by
  have written {p q : Picture (macroblocksFor t.height) (macroblocksFor t.width)}
      (same : p.unmarked = q.unmarked) :
      (pool.unmarked.setPicture .current p).unmarked = (pool.setPicture .current q).unmarked := by
    rw [PicturePool.unmarked_setPicture, PicturePool.unmarked_setPicture,
      PicturePool.unmarked_unmarked, same]
  by_cases lost : (overrun && h.tag.keyframe) = true
  · rw [conclude_lost lost, conclude_lost lost]
    refine ⟨rfl, ?_⟩
    have pools := congrArg PicturePool.abandon
      (written (p := done.picture.unmarked) (q := done.picture) rfl)
    exact congrArg (fun pool => { t with grid := done.grid, pool }) pools
  · rw [conclude_kept lost, conclude_kept lost]
    refine ⟨rfl, ?_⟩
    have finished := (finish_unmarked h done.picture done.grid overrun).symm
    have pools := congrArg (PicturePool.commit · h.header.references) (written finished)
    rw [← PicturePool.unmarked_commit, ← PicturePool.unmarked_commit] at pools
    exact congrArg (fun pool => { t with grid := done.grid, pool }) pools

/-- A frame goes on from marks as it goes on without them. -/
theorem decode_unmarked (t : Stream) (h : Headers) :
    Forgets (t.unmarked.decode h) (t.decode h) := by
  have modes : t.unmarked.modes h = t.modes h := rfl
  rw [decode_eq, decode_eq, modes, ← PicturePool.unmarked_acquire]
  cases t.pool.acquire with
  | error e =>
    refine ⟨rfl, ?_⟩
    have pools := t.pool.unmarked_unmarked
    exact congrArg (fun pool => { t with grid := (t.modes h).1, pool }) pools
  | ok pool =>
    have frame := reconstructFrame_unmarked (h.setup pool) (pool.picture .current) (t.modes h).1
      h.partitions
    dsimp only [Except.map]
    rw [setup_unmarked, PicturePool.picture_unmarked, ← frame]
    cases reconstructFrame (h.setup pool) (pool.picture .current) (t.modes h).1 h.partitions with
    | error e =>
      refine ⟨rfl, ?_⟩
      have pools := pool.abandon.unmarked_unmarked
      exact congrArg (fun pool => { t with grid := (t.modes h).1, pool }) pools
    | ok done => exact t.conclude_unmarked h pool done (done.overrun || (t.modes h).2.overrun)

end Stream

namespace Session

variable {s t : Session}

def unmarked (s : Session) : Session := { s with stream := s.stream.map Stream.unmarked }

def unmarkedAnswer (answer : Except DecodeError Frame) : Except DecodeError Frame :=
  answer.map Frame.unmarked

def Forgets (x y : Session × Except DecodeError Frame) : Prop :=
  unmarkedAnswer x.2 = unmarkedAnswer y.2 ∧ x.1.unmarked = y.1.unmarked

theorem unmarked_unmarked (s : Session) : s.unmarked.unmarked = s.unmarked := by
  unfold unmarked
  rw [Option.map_map]
  congr 1
  cases s.stream with
  | none => rfl
  | some t => exact congrArg some t.unmarked_unmarked

theorem allocate_unmarked (memory : Memory) (size : KeyframeSize) :
    (Stream.allocate memory size).map Stream.unmarked = Stream.allocate memory size := by
  cases allocated : Stream.allocate memory size with
  | error e => rfl
  | ok t =>
    obtain rfl := Stream.allocate_ok allocated
    dsimp only [Except.map]
    unfold Stream.unmarked Stream.blank
    rw [PicturePool.unmarked_blank]

theorem configure_unmarked (limits : Limits) (memory : Memory) (old : Option Stream)
    (size : KeyframeSize) :
    Stream.configure limits memory (old.map Stream.unmarked) size =
      (Stream.configure limits memory old size).map Stream.unmarked := by
  unfold Stream.configure
  split
  · rfl
  · cases old with
    | none => exact (allocate_unmarked memory size).symm
    | some t =>
      dsimp only [Option.map_some]
      split
      · rfl
      · exact (allocate_unmarked memory size).symm

theorem enter_unmarked (s : Session) (memory : Memory) (preamble : Preamble) :
    s.unmarked.enter memory preamble =
      (s.enter memory preamble).map fun entered => (entered.1.unmarked, entered.2) := by
  unfold enter
  cases preamble.keyframeSize with
  | some size =>
    dsimp only
    change (Stream.configure s.limits memory (s.stream.map Stream.unmarked) size >>= _) = _
    rw [configure_unmarked]
    cases Stream.configure s.limits memory s.stream size with
    | error e => rfl
    | ok t => rfl
  | none =>
    obtain ⟨limits, stream, carried, awaiting, count⟩ := s
    cases awaiting with
    | true => rfl
    | false =>
      cases stream with
      | none => rfl
      | some t => rfl

theorem decodeFrom_unmarked (s : Session) (packet : ByteArray) (preamble : Preamble) (t : Stream)
    (carried : Carried) :
    Forgets (s.unmarked.decodeFrom packet preamble t.unmarked carried)
      (s.decodeFrom packet preamble t carried) := by
  unfold decodeFrom
  cases Headers.read packet preamble carried with
  | error e =>
    refine ⟨rfl, ?_⟩
    exact congrArg (fun t => { s with stream := some t }) t.unmarked_unmarked
  | ok h =>
    obtain ⟨answers, streams⟩ := t.decode_unmarked h
    dsimp only
    generalize t.unmarked.decode h = x at answers streams ⊢
    generalize t.decode h = y at answers streams ⊢
    obtain ⟨u, answer⟩ := x
    obtain ⟨v, _⟩ := y
    cases answers
    have settled : settle s.unmarked.carried h = settle s.carried h := rfl
    match answer with
    | .error e =>
      refine ⟨rfl, ?_⟩
      exact congrArg (fun t => { s with stream := some t }) streams
    | .ok true =>
      refine ⟨rfl, ?_⟩
      exact congrArg (fun t => { s with stream := some t, carried := settle s.carried h }) streams
    | .ok false =>
      constructor
      · have frames := congrArg (Stream.frame · h.tag) streams
        dsimp only at frames
        rw [Stream.frame_unmarked, Stream.frame_unmarked] at frames
        exact congrArg Except.ok frames
      · exact congrArg (fun t => { s with
          stream := some t
          carried := settle s.carried h
          awaitingKeyframe := s.awaitingKeyframe && !h.tag.keyframe
          frameCount := s.frameCount + 1 }) streams

theorem giveUp_unmarked (s : Session) (e : DecodeError) :
    (s.unmarked.giveUp e).unmarked = (s.giveUp e).unmarked := by
  cases e with
  | allocationFailed bytes => rfl
  | _ => exact s.unmarked_unmarked

theorem decodePacket_unmarked (s : Session) (memory : Memory) (packet : ByteArray) :
    Forgets (s.unmarked.decodePacket memory packet) (s.decodePacket memory packet) := by
  unfold decodePacket
  cases Preamble.parse packet with
  | error e => exact ⟨rfl, s.unmarked_unmarked⟩
  | ok preamble =>
    dsimp only
    rw [enter_unmarked]
    cases s.enter memory preamble with
    | error e => exact ⟨rfl, s.giveUp_unmarked e⟩
    | ok entered => exact s.decodeFrom_unmarked packet preamble entered.1 entered.2

theorem unmarked_recover (s : Session) (keyframe : Bool) (e : DecodeError) :
    (s.recover keyframe e).1.unmarked =
      if keyframe then { s.unmarked with awaitingKeyframe := true } else s.unmarked := by
  have marked : { s with stream := s.stream.map Stream.markLastDamaged }.unmarked = s.unmarked := by
    unfold unmarked
    cases s.stream with
    | none => rfl
    | some t =>
      exact congrArg (fun t => { s with stream := some t }) t.unmarked_markLastDamaged
  unfold recover
  cases keyframe with
  | true => rfl
  | false =>
    cases e with
    | corruptFrame damage => exact marked
    | _ => rfl

theorem recover_error (s : Session) (keyframe : Bool) (e : DecodeError) :
    (s.recover keyframe e).2 = if keyframe then e.ofKeyframe else e := by
  unfold recover
  cases keyframe with
  | true => rfl
  | false => cases e <;> rfl

theorem decode_unmarked (s : Session) (memory : Memory) (packet : ByteArray) :
    Forgets (s.unmarked.decode memory packet) (s.decode memory packet) := by
  obtain ⟨answers, sessions⟩ := s.decodePacket_unmarked memory packet
  unfold decode
  generalize s.unmarked.decodePacket memory packet = x at answers sessions ⊢
  generalize s.decodePacket memory packet = y at answers sessions ⊢
  obtain ⟨u, answer⟩ := x
  obtain ⟨v, answer'⟩ := y
  cases answer with
  | ok frame =>
    cases answer' with
    | ok frame' => exact ⟨answers, sessions⟩
    | error e => contradiction
  | error e =>
    cases answer' with
    | ok frame' => contradiction
    | error e' =>
      cases answers
      constructor
      · exact congrArg Except.error
          ((u.recover_error _ e).trans (v.recover_error _ e).symm)
      · dsimp only at sessions ⊢
        rw [unmarked_recover, unmarked_recover, sessions]

theorem call_unmarked (s : Session) (c : Call) :
    (s.unmarked.call c).2.map unmarkedAnswer = (s.call c).2.map unmarkedAnswer ∧
      (s.unmarked.call c).1.unmarked = (s.call c).1.unmarked := by
  cases c with
  | decode memory packet =>
    obtain ⟨answers, sessions⟩ := s.decode_unmarked memory packet
    exact ⟨congrArg some answers, sessions⟩
  | reset => exact ⟨rfl, rfl⟩

theorem answers_unmarked (same : s.unmarked = t.unmarked) (calls : List Call) :
    (s.answers calls).map (Option.map unmarkedAnswer) =
      (t.answers calls).map (Option.map unmarkedAnswer) := by
  induction calls generalizing s t with
  | nil => rfl
  | cons c calls ih =>
    obtain ⟨answer, next⟩ := s.call_unmarked c
    obtain ⟨answer', next'⟩ := t.call_unmarked c
    have first : (s.call c).2.map unmarkedAnswer = (t.call c).2.map unmarkedAnswer := by
      rw [← answer, same, answer']
    have rest : (s.call c).1.unmarked = (t.call c).1.unmarked := by
      rw [← next, same, next']
    unfold answers
    rw [List.map_cons, List.map_cons, first, ih rest]

/-- What becomes of the frame of a packet: whether its data ended early, or why it did not take the
    place of any reference. -/
def commitFrame (s : Session) (memory : Memory) (packet : ByteArray) : Except DecodeError Bool := do
  let preamble ← Preamble.parse packet
  let (t, carried) ← s.enter memory preamble
  let h ← Headers.read packet preamble carried
  (t.decode h).2

/-- Behind the preamble nothing but the headers can be the reason: a frame that is no keyframe is
    committed once they are read. -/
theorem decodeFrom_rejected {packet : ByteArray} {preamble : Preamble} {t : Stream}
    {carried : Carried} {e : DecodeError} (balanced : t.pool.Balanced) (present : s.stream = some t)
    (inter : preamble.tag.keyframe = false)
    (rejected : (Headers.read packet preamble carried >>= fun h => (t.decode h).2) = .error e) :
    s.decodeFrom packet preamble t carried = (s, .error e) := by
  have same : { s with stream := some t } = s := by
    rw [← present]
  unfold decodeFrom
  cases read : Headers.read packet preamble carried with
  | error e' =>
    rw [read] at rejected
    cases rejected
    exact congrArg (·, _) same
  | ok h =>
    rw [read] at rejected
    -- from here on only a keyframe can be lost
    obtain ⟨keyframe, _⟩ :=
      Stream.decode_error balanced (Headers.read_partitions read) rejected
    rw [Headers.read_tag read, inter] at keyframe
    contradiction

theorem decodePacket_rejected {memory : Memory} {packet : ByteArray} {e : DecodeError}
    (balanced : s.Balanced) (inter : isKeyframe packet = false)
    (rejected : s.commitFrame memory packet = .error e) :
    s.decodePacket memory packet = (s, .error e) := by
  unfold commitFrame at rejected
  unfold decodePacket
  cases parsed : Preamble.parse packet with
  | error e' =>
    rw [parsed] at rejected
    cases rejected
    rfl
  | ok preamble =>
    obtain ⟨tagged, sized⟩ := Preamble.parse_keyframe parsed
    rw [inter] at tagged sized
    rw [parsed] at rejected
    change s.enter memory preamble >>= _ = _ at rejected
    dsimp only
    cases entered : s.enter memory preamble with
    | error e' =>
      rw [entered] at rejected
      cases rejected
      obtain rfl := enter_inter_error parsed inter entered
      rfl
    | ok enter =>
      rw [entered] at rejected
      obtain ⟨_, _, present, _⟩ | ⟨size, keyframe, _⟩ := enter_ok entered
      · exact decodeFrom_rejected (balanced _ present) present tagged rejected
      · rw [keyframe] at sized
        contradiction

theorem decode_of_refused {memory : Memory} {packet : ByteArray} {e : DecodeError}
    (inter : isKeyframe packet = false) (refused : s.decodePacket memory packet = (s, .error e)) :
    s.decode memory packet = ((s.recover false e).1, .error e) := by
  unfold decode
  rw [refused, inter]
  exact congrArg (fun e' => (_, Except.error e')) (s.recover_error false e)

/-- A refused packet that is no keyframe changes nothing but, if it is damaged itself, the mark of
    the last reference. All later calls have the answers that they would have had without it, up to
    marks of damage. -/
theorem rejected_frame_is_atomic {memory : Memory} {packet : ByteArray} {e : DecodeError}
    (reachable : s.Reachable) (inter : isKeyframe packet = false)
    (rejected : s.commitFrame memory packet = .error e) :
    (s.decode memory packet).2 = .error e ∧
      (s.decode memory packet).1 =
        (if e.isRecoverable then { s with stream := s.stream.map Stream.markLastDamaged } else s) ∧
      ∀ calls, ((s.decode memory packet).1.answers calls).map (Option.map unmarkedAnswer) =
        (s.answers calls).map (Option.map unmarkedAnswer) := by
  have refused := decodePacket_rejected reachable.balanced inter rejected
  have decoded : s.decode memory packet =
      ((s.recover false e).1, .error (s.recover false e).2) := by
    unfold decode
    rw [refused, inter]
  rw [decoded]
  refine ⟨congrArg Except.error (s.recover_error false e), ?_, ?_⟩
  · unfold recover
    cases e <;> rfl
  · exact answers_unmarked (s.unmarked_recover false e)

/-- A frame that switches segments on and then asks for a copy that does not exist. -/
def badCopyFrame : ByteArray :=
  ⟨#[0x11, 0x01, 0x00, 0x8f, 0x00, 0x00, 0x00, 0x00, 0x00, 0x00, 0x00]⟩

theorem rejected_copy_is_atomic :
    (changed.decode .ample badCopyFrame).2 = .error (.corruptFrame .referenceCopy) ∧
      (changed.decode .ample badCopyFrame).1 =
        { changed with stream := changed.stream.map Stream.markLastDamaged } ∧
      ∀ calls,
        ((changed.decode .ample badCopyFrame).1.answers calls).map (Option.map unmarkedAnswer) =
          (changed.answers calls).map (Option.map unmarkedAnswer) := by
  have reachable : changed.Reachable := Reachable.decode (.start .default) .ample changingKeyframe
  exact rejected_frame_is_atomic reachable (by decide +kernel) (by decide +kernel)

end Session

end Vp8
