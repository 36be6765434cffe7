import Vp8.Proofs.Session.Awaiting
import Vp8.Proofs.Session.Safety

/-!
The size that a session reports. A keyframe of an allowed size makes room for its pictures before
anything behind its preamble is read, and a refusal afterwards does not bring the earlier stream
back. If memory for the pictures is refused, no size is left at all. No other packet has a say in
the size.
-/
namespace Vp8

def Limits.allows (limits : Limits) (size : KeyframeSize) : Bool :=
  !decide (limits.maxWidth < size.width ∨ limits.maxHeight < size.height)

theorem Limits.allows_iff {limits : Limits} {size : KeyframeSize} :
    limits.allows size = true ↔
      ¬ (limits.maxWidth < size.width ∨ limits.maxHeight < size.height) := by
  unfold allows
  rw [Bool.not_eq_true', decide_eq_false_iff_not]

def carriedSize? (packet : ByteArray) : Option KeyframeSize :=
  (Preamble.parse packet).toOption.bind Preamble.keyframeSize

/-- The width and height that a packet gives to the stream. -/
def newSize? (limits : Limits) (packet : ByteArray) : Option (Nat × Nat) :=
  ((carriedSize? packet).filter limits.allows).map fun size => (size.width, size.height)

/-- What a stream has of the size given to it: nothing, if memory for its pictures was refused. -/
def sizeLeft (answer : Except DecodeError Frame) (size : Nat × Nat) : Nat × Nat :=
  match answer with
  | .error (.allocationFailed _) => (0, 0)
  | _ => size

theorem sizeLeft_accepted {answer : Except DecodeError Frame} (accepted : answer.toBool = true)
    (size : Nat × Nat) : sizeLeft answer size = size := by
  obtain ⟨frame, rfl⟩ := ok_of_toBool accepted
  rfl

theorem sizeLeft_ofKeyframe (e : DecodeError) (size : Nat × Nat) :
    sizeLeft (.error e.ofKeyframe) size = sizeLeft (.error e) size := by
  cases e <;> rfl

theorem sizeLeft_of_corrupts {answer : Except DecodeError Frame} (corrupts : Corrupts answer)
    (size : Nat × Nat) : sizeLeft answer size = size := by
  cases answer with
  | ok frame => rfl
  | error e =>
    obtain ⟨damage, rfl, _⟩ := corrupts e rfl
    rfl

theorem newSize?_of_parsed (limits : Limits) {packet : ByteArray} {preamble : Preamble}
    (parsed : Preamble.parse packet = .ok preamble) :
    newSize? limits packet =
      (preamble.keyframeSize.filter limits.allows).map fun size => (size.width, size.height) := by
  unfold newSize? carriedSize?
  rw [parsed]
  rfl

theorem newSize?_inter (limits : Limits) {packet : ByteArray} (inter : isKeyframe packet = false) :
    newSize? limits packet = none := by
  cases parsed : Preamble.parse packet with
  | error e =>
    unfold newSize? carriedSize?
    rw [parsed]
    rfl
  | ok preamble =>
    rw [newSize?_of_parsed limits parsed, Preamble.parse_inter parsed inter]
    rfl

namespace Stream

variable {limits : Limits} {memory : Memory} {old : Option Stream} {size : KeyframeSize}
  {t : Stream}

theorem configure_allowed (configured : configure limits memory old size = .ok t) :
    limits.allows size = true ∧ t.width = size.width ∧ t.height = size.height := by
  have allowed : limits.allows size = true := by
    unfold configure at configured
    split at configured
    · contradiction
    · rename_i fits
      exact Limits.allows_iff.mpr fits
  refine ⟨allowed, ?_⟩
  obtain ⟨u, _, same, rfl⟩ | ⟨_, rfl⟩ := configure_ok configured
  · exact same
  · exact ⟨rfl, rfl⟩

theorem decode_size (t : Stream) (h : Headers) :
    (t.decode h).1.width = t.width ∧ (t.decode h).1.height = t.height := by
  rw [decode_eq]
  split
  · exact ⟨rfl, rfl⟩
  · split
    · exact ⟨rfl, rfl⟩
    · unfold conclude
      split <;> exact ⟨rfl, rfl⟩

end Stream

namespace Session

variable {s : Session} {memory : Memory} {packet : ByteArray}

theorem enter_dimensions {preamble : Preamble} {t : Stream} {carried : Carried}
    (parsed : Preamble.parse packet = .ok preamble)
    (entered : s.enter memory preamble = .ok (t, carried)) :
    (t.width, t.height) = (newSize? s.limits packet).getD s.dimensions := by
  rw [newSize?_of_parsed s.limits parsed]
  obtain ⟨unsized, _, stream, _⟩ | ⟨size, sized, configured, _⟩ := enter_ok entered
  · rw [unsized]
    unfold dimensions
    rw [stream]
    rfl
  · obtain ⟨allowed, width, height⟩ := Stream.configure_allowed configured
    rw [sized, Option.filter_some, if_pos allowed, width, height]
    rfl

theorem giveUp_dimensions {preamble : Preamble} {e : DecodeError}
    (parsed : Preamble.parse packet = .ok preamble)
    (refused : s.enter memory preamble = .error e) :
    (s.giveUp e).dimensions =
      ((newSize? s.limits packet).map (sizeLeft (.error e))).getD s.dimensions := by
  rw [newSize?_of_parsed s.limits parsed]
  obtain ⟨unsized, rfl⟩ | ⟨size, sized, configured⟩ := enter_error refused
  · rw [unsized]
    rfl
  · rw [sized, Option.filter_some]
    obtain ⟨large, rfl⟩ | ⟨fits, bytes, rfl⟩ := Stream.configure_error configured
    · rw [if_neg fun allowed => Limits.allows_iff.mp allowed large]
      rfl
    · rw [if_pos (Limits.allows_iff.mpr fits)]
      rfl

theorem decodeFrom_dimensions (packet : ByteArray) (preamble : Preamble) (t : Stream)
    (carried : Carried) :
    (s.decodeFrom packet preamble t carried).1.dimensions = (t.width, t.height) := by
  unfold decodeFrom
  split
  · rfl
  · rename_i h _
    obtain ⟨width, height⟩ := t.decode_size h
    split
    all_goals
      rename_i decoded
      rw [decoded] at width height
      exact congrArg₂ Prod.mk width height

theorem decodePacket_dimensions (balanced : s.Balanced) (memory : Memory) (packet : ByteArray) :
    (s.decodePacket memory packet).1.dimensions =
      ((newSize? s.limits packet).map (sizeLeft (s.decodePacket memory packet).2)).getD
        s.dimensions := by
  unfold decodePacket
  cases parsed : Preamble.parse packet with
  | error e =>
    unfold newSize? carriedSize?
    rw [parsed]
    rfl
  | ok preamble =>
    dsimp only
    cases entered : s.enter memory preamble with
    | error e => exact giveUp_dimensions parsed entered
    | ok x =>
      have counted := enter_keeps Stream.balanced_invariant balanced parsed entered
      have same : sizeLeft (s.decodeFrom packet preamble x.1 x.2).2 = id :=
        funext (sizeLeft_of_corrupts (decodeFrom_corrupts counted))
      dsimp only
      rw [same, Option.map_id, id, ← enter_dimensions parsed entered]
      exact s.decodeFrom_dimensions packet preamble x.1 x.2

/-- After a packet the session reports what is left of the size that the packet gives to the stream,
    whether the packet is accepted or not, and the earlier one if it gives none. -/
theorem decode_dimensions (balanced : s.Balanced) (memory : Memory) (packet : ByteArray) :
    (s.decode memory packet).1.dimensions =
      ((newSize? s.limits packet).map (sizeLeft (s.decode memory packet).2)).getD
        s.dimensions := by
  have unmarked := decode_observes (fun stream => stream.elim (0, 0) fun t => (t.width, t.height))
    (fun _ => rfl) s memory packet
  have left : sizeLeft (s.decode memory packet).2 = sizeLeft (s.decodePacket memory packet).2 := by
    funext size
    unfold decode
    generalize s.decodePacket memory packet = x
    obtain ⟨u, e | frame⟩ := x
    · dsimp only
      rw [recover_error]
      split
      · exact sizeLeft_ofKeyframe e size
      · rfl
    · rfl
  rw [left, ← decodePacket_dimensions balanced]
  exact unmarked

theorem giveUp_limits (s : Session) (e : DecodeError) : (s.giveUp e).limits = s.limits := by
  cases e <;> rfl

theorem decode_limits (s : Session) (memory : Memory) (packet : ByteArray) :
    (s.decode memory packet).1.limits = s.limits := by
  have inner : (s.decodePacket memory packet).1.limits = s.limits := by
    unfold decodePacket
    split
    · rfl
    · split
      · exact s.giveUp_limits _
      · unfold decodeFrom
        split
        · rfl
        · split <;> rfl
  have after (u : Session) (keyframe : Bool) (e : DecodeError) :
      (u.recover keyframe e).1.limits = u.limits := by
    unfold recover
    split
    · rfl
    · split <;> rfl
  unfold decode
  generalize s.decodePacket memory packet = x at inner
  obtain ⟨u, e | frame⟩ := x
  · exact (after u _ e).trans inner
  · exact inner

/-- A keyframe that is accepted gives its size to the stream. -/
theorem newSize?_accepted (keyframe : isKeyframe packet = true)
    (accepted : (s.decode memory packet).2.toBool = true) :
    (newSize? s.limits packet).isSome = true := by
  obtain ⟨frame, done⟩ := ok_of_toBool accepted
  obtain ⟨preamble, t, _, parsed, entered, _⟩ := decodePacket_ok (decode_ok done).1
  have sized := (Preamble.parse_keyframe parsed).2
  rw [keyframe] at sized
  obtain ⟨unsized, _⟩ | ⟨size, present, configured, _⟩ := enter_ok entered
  · rw [unsized] at sized
    contradiction
  · rw [newSize?_of_parsed s.limits parsed, present, Option.filter_some,
      if_pos (Stream.configure_allowed configured).1]
    rfl

def Attempt.size? (limits : Limits) (a : Attempt) : Option (Nat × Nat) :=
  (newSize? limits a.packet).map (sizeLeft a.answer)

structure Reports (limits : Limits) (s : Session) (attempts : List Attempt) : Prop where
  reachable : s.Reachable
  within : s.limits = limits
  dimensions : s.dimensions = (attempts.findSome? (Attempt.size? limits)).getD (0, 0)
  accepted : ∀ a ∈ attempts, isKeyframe a.packet = true → a.accepted = true →
    (newSize? limits a.packet).isSome = true

theorem Reports.record {limits : Limits} {x : Session × List Attempt}
    (reports : Reports limits x.1 x.2) (c : Call) :
    Reports limits (record x c).1 (record x c).2 := by
  cases c with
  | decode memory packet =>
    have given := decode_dimensions reports.reachable.balanced memory packet
    rw [reports.within] at given
    have within := (x.1.decode_limits memory packet).trans reports.within
    refine ⟨reports.reachable.decode memory packet, within, ?_, ?_⟩
    · change (x.1.decode memory packet).1.dimensions = (List.findSome? _ (_ :: x.2)).getD _
      rw [given, reports.dimensions, List.findSome?_cons]
      dsimp only [Attempt.size?]
      cases newSize? limits packet <;> rfl
    · change ∀ a ∈ _ :: x.2, _
      rw [List.forall_mem_cons]
      refine ⟨fun keyframe accepted => ?_, reports.accepted⟩
      rw [← reports.within]
      exact newSize?_accepted keyframe accepted
  | reset =>
    refine ⟨reports.reachable.call .reset, reports.within, rfl, ?_⟩
    change ∀ a ∈ [], _
    exact nofun

theorem Reports.records {limits : Limits} {x : Session × List Attempt}
    (reports : Reports limits x.1 x.2) (calls : List Call) :
    Reports limits (calls.foldl Session.record x).1 (calls.foldl Session.record x).2 := by
  induction calls generalizing x with
  | nil => exact reports
  | cons c calls ih => exact ih (reports.record c)

theorem size_of_accepted {limits : Limits} {attempts : List Attempt} (waits : ¬ Waits attempts)
    (accepted : ∀ a ∈ attempts, isKeyframe a.packet = true → a.accepted = true →
      (newSize? limits a.packet).isSome = true) :
    ∃ a size, attempts.find? (fun a => isKeyframe a.packet && a.accepted) = some a ∧
      newSize? limits a.packet = some size ∧
      attempts.findSome? (Attempt.size? limits) = some size := by
  induction attempts with
  | nil => exact absurd (.inl nofun) waits
  | cons a attempts ih =>
    rw [waits_cons] at waits
    rw [List.forall_mem_cons] at accepted
    rw [List.find?_cons, List.findSome?_cons]
    unfold Attempt.size?
    cases keyframe : isKeyframe a.packet with
    | true =>
      rw [keyframe] at waits
      have taken : a.accepted = true := Bool.eq_true_of_not_eq_false waits
      obtain ⟨size, given⟩ := Option.isSome_iff_exists.mp (accepted.1 keyframe taken)
      rw [taken, given]
      exact ⟨a, size, rfl, given, congrArg some (sizeLeft_accepted taken size)⟩
    | false =>
      rw [keyframe] at waits
      rw [newSize?_inter limits keyframe]
      exact ih waits accepted.2

/-- After any calls, the size that a session reports is the one that was given to the stream last,
    since the start or the last reset: by a keyframe that was accepted, or by one that was refused
    for what stands behind its preamble. If memory was refused to the last one there is none. While
    the session does not wait for a keyframe it is the size of the last one that it accepted. A
    packet that is refused changes the size only if it is a keyframe with a preamble in order and of
    an allowed size; then the session reports what is left of that size, and waits for a
    keyframe. -/
theorem dimensions_given_last (limits : Limits) (calls : List Call) :
    let x := calls.foldl record (start limits, [])
    x.1.dimensions = (x.2.findSome? (Attempt.size? limits)).getD (0, 0) ∧
      (∀ a ∈ x.2, isKeyframe a.packet = true → a.accepted = true →
        (newSize? limits a.packet).isSome = true) ∧
      (x.1.awaitingKeyframe = false →
        ∃ a, x.2.find? (fun a => isKeyframe a.packet && a.accepted) = some a ∧
          newSize? limits a.packet = some x.1.dimensions) ∧
      ∀ memory packet e, (x.1.decode memory packet).2 = .error e →
        (newSize? limits packet = none →
          (x.1.decode memory packet).1.dimensions = x.1.dimensions) ∧
        ∀ size, newSize? limits packet = some size →
          isKeyframe packet = true ∧
            (x.1.decode memory packet).1.awaitingKeyframe = true ∧
            (x.1.decode memory packet).1.dimensions = sizeLeft (.error e) size := by
  intro x
  have reports : Reports limits x.1 x.2 :=
    Reports.records (x := (start limits, [])) ⟨.start limits, rfl, rfl, nofun⟩ calls
  have waiting : x.1.awaitingKeyframe = true ↔ Waits x.2 :=
    records_waiting (x := (start limits, [])) ⟨fun _ => .inl nofun, fun _ => rfl⟩ calls
  refine ⟨reports.dimensions, reports.accepted, ?_, ?_⟩
  · intro streaming
    have waits : ¬ Waits x.2 := by
      rw [← waiting, streaming]
      exact nofun
    obtain ⟨a, size, last, given, first⟩ := size_of_accepted waits reports.accepted
    refine ⟨a, last, ?_⟩
    rw [reports.dimensions, first, given]
    rfl
  · intro memory packet e refused
    have after := decode_dimensions reports.reachable.balanced memory packet
    rw [reports.within, refused] at after
    refine ⟨fun none => ?_, fun size given => ?_⟩
    · rw [none] at after
      exact after
    · rw [given] at after
      have keyframe : isKeyframe packet = true := by
        by_contra inter
        rw [newSize?_inter limits (Bool.eq_false_iff.mpr inter)] at given
        contradiction
      refine ⟨keyframe, ?_, after⟩
      rw [decode_awaiting, keyframe, refused]
      rfl

def emptyKeyframe : ByteArray :=
  ⟨#[0x10, 0x00, 0x00, 0x9d, 0x01, 0x2a, 0x20, 0x00, 0x10, 0x00]⟩

/-- A keyframe is refused, and the session reports its size all the same. -/
theorem refused_keyframe_changes_dimensions :
    changed.Reachable ∧ changed.dimensions = (16, 16) ∧
      (∃ e, (changed.decode .ample emptyKeyframe).2 = .error e) ∧
      (changed.decode .ample emptyKeyframe).1.dimensions = (32, 16) := by
  refine ⟨changed_reachable, by decide +kernel, ?_, by decide +kernel⟩
  have refused : (changed.decode .ample emptyKeyframe).2.toBool = false := by decide +kernel
  cases answer : (changed.decode .ample emptyKeyframe).2 with
  | error e => exact ⟨e, rfl⟩
  | ok frame =>
    rw [answer] at refused
    contradiction

end Session

end Vp8
