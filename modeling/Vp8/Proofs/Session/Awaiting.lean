import Vp8.Proofs.Session.Rejection

/-!
When a session waits for a keyframe: from its start until one is accepted, and again after every one
that is refused. While it waits it refuses all other packets and stays as it is. It counts the
packets that it accepts.
-/
namespace Vp8

namespace Session

variable {s : Session} {memory : Memory} {packet : ByteArray}

structure Counts (s : Session) (keyframe : Bool) (x : Session × Except DecodeError Frame) :
    Prop where
  awaiting : x.1.awaitingKeyframe = (s.awaitingKeyframe && !(keyframe && x.2.toBool))
  frameCount : x.1.frameCount = s.frameCount + x.2.toBool.toNat
  stream : x.2.toBool = true ∨ keyframe = false ∧ s.stream.isSome = true →
    x.1.stream.isSome = true

theorem Counts.refused (keyframe : Bool) (e : DecodeError) : Counts s keyframe (s, .error e) where
  awaiting := by
    change _ = (_ && !(keyframe && false))
    rw [Bool.and_false, Bool.not_false, Bool.and_true]
  frameCount := rfl
  stream := by
    rintro (accepted | ⟨_, present⟩)
    · contradiction
    · exact present

/-- Only for a keyframe a stream is given up. -/
theorem Counts.gaveUp (s : Session) (e : DecodeError) : Counts s true (s.giveUp e, .error e) where
  awaiting := by
    change _ = (_ && !(true && false))
    rw [Bool.and_false, Bool.not_false, Bool.and_true]
    cases e <;> rfl
  frameCount := by cases e <;> rfl
  stream := by
    rintro (accepted | ⟨inter, _⟩)
    · contradiction
    · contradiction

theorem decodeFrom_counts (packet : ByteArray) (preamble : Preamble) (t : Stream)
    (carried : Carried) :
    Counts s preamble.tag.keyframe (s.decodeFrom packet preamble t carried) := by
  -- a refusal behind the preamble leaves a stream, and the flag and the count as they are
  have refused (u : Stream) (carried : Carried) (e : DecodeError) :
      Counts s preamble.tag.keyframe ({ s with stream := some u, carried }, .error e) :=
    { Counts.refused (s := s) preamble.tag.keyframe e with stream := fun _ => rfl }
  unfold decodeFrom
  cases read : Headers.read packet preamble carried with
  | error e => exact refused t s.carried e
  | ok h =>
    have tag := Headers.read_tag read
    dsimp only
    generalize t.decode h = x
    obtain ⟨u, e | _ | _⟩ := x
    · exact refused u s.carried e
    · refine ⟨?_, rfl, fun _ => rfl⟩
      dsimp only [Except.toBool]
      rw [tag, Bool.and_true]
    · exact refused u _ _

theorem decodePacket_counts (s : Session) (memory : Memory) (packet : ByteArray) :
    Counts s (isKeyframe packet) (s.decodePacket memory packet) := by
  unfold decodePacket
  cases parsed : Preamble.parse packet with
  | error e => exact .refused _ e
  | ok preamble =>
    dsimp only
    cases entered : s.enter memory preamble with
    | error e =>
      cases keyframe : isKeyframe packet with
      | true => exact .gaveUp s e
      | false =>
        obtain rfl := enter_inter_error parsed keyframe entered
        exact .refused false _
    | ok begun =>
      rw [← (Preamble.parse_keyframe parsed).1]
      exact decodeFrom_counts packet preamble begun.1 begun.2

theorem recover_counts (s : Session) (keyframe : Bool) (e : DecodeError) :
    (s.recover keyframe e).1.awaitingKeyframe = (s.awaitingKeyframe || keyframe) ∧
      (s.recover keyframe e).1.frameCount = s.frameCount ∧
      (s.recover keyframe e).1.stream.isSome = s.stream.isSome := by
  unfold recover
  cases keyframe with
  | true =>
    rw [Bool.or_true]
    exact ⟨rfl, rfl, rfl⟩
  | false =>
    rw [Bool.or_false]
    cases e with
    | corruptFrame damage => exact ⟨rfl, rfl, Option.isSome_map⟩
    | _ => exact ⟨rfl, rfl, rfl⟩

theorem decode_awaiting (s : Session) (memory : Memory) (packet : ByteArray) :
    (s.decode memory packet).1.awaitingKeyframe =
      if isKeyframe packet then !(s.decode memory packet).2.toBool else s.awaitingKeyframe := by
  have awaiting := (s.decodePacket_counts memory packet).awaiting
  unfold decode
  generalize s.decodePacket memory packet = x at awaiting
  obtain ⟨u, e | frame⟩ := x
  · obtain ⟨flag, _, _⟩ := u.recover_counts (isKeyframe packet) e
    dsimp only [Except.toBool] at awaiting ⊢
    rw [flag, awaiting]
    cases isKeyframe packet <;> simp
  · dsimp only [Except.toBool] at awaiting ⊢
    rw [awaiting]
    cases isKeyframe packet <;> simp

theorem decode_frameCount (s : Session) (memory : Memory) (packet : ByteArray) :
    (s.decode memory packet).1.frameCount =
      s.frameCount + (s.decode memory packet).2.toBool.toNat := by
  have count := (s.decodePacket_counts memory packet).frameCount
  unfold decode
  generalize s.decodePacket memory packet = x at count
  obtain ⟨u, e | frame⟩ := x
  · obtain ⟨_, kept, _⟩ := u.recover_counts (isKeyframe packet) e
    exact kept.trans count
  · exact count

theorem decode_stream (s : Session) (memory : Memory) (packet : ByteArray)
    (given : (s.decode memory packet).2.toBool = true ∨
      isKeyframe packet = false ∧ s.stream.isSome = true) :
    (s.decode memory packet).1.stream.isSome = true := by
  have stream := (s.decodePacket_counts memory packet).stream
  unfold decode at given ⊢
  generalize s.decodePacket memory packet = x at stream given
  obtain ⟨u, e | frame⟩ := x
  · obtain ⟨_, _, kept⟩ := u.recover_counts (isKeyframe packet) e
    exact kept.trans (stream given)
  · exact stream given

structure Attempt where
  packet : ByteArray
  answer : Except DecodeError Frame

def Attempt.accepted (a : Attempt) : Bool := a.answer.toBool

def record (x : Session × List Attempt) (c : Call) : Session × List Attempt :=
  ((x.1.call c).1,
    match c with
    | .decode memory packet => ⟨packet, (x.1.decode memory packet).2⟩ :: x.2
    | .reset => [])

/-- No keyframe was submitted, or the most recent one was refused. -/
def Waits (attempts : List Attempt) : Prop :=
  (∀ a ∈ attempts, isKeyframe a.packet = false) ∨
    ∃ a, attempts.find? (fun a => isKeyframe a.packet) = some a ∧ a.accepted = false

theorem waits_cons (a : Attempt) (attempts : List Attempt) :
    Waits (a :: attempts) ↔
      if isKeyframe a.packet then a.accepted = false else Waits attempts := by
  unfold Waits
  rw [List.find?_cons, List.forall_mem_cons]
  cases isKeyframe a.packet with
  | true => simp
  | false => simp

theorem waits_of_refused {attempts : List Attempt}
    (refused : ∀ a ∈ attempts, isKeyframe a.packet = true → a.accepted = false) :
    Waits attempts := by
  induction attempts with
  | nil => exact .inl nofun
  | cons a attempts ih =>
    rw [List.forall_mem_cons] at refused
    rw [waits_cons]
    split
    · rename_i keyframe
      exact refused.1 keyframe
    · exact ih refused.2

theorem record_waiting {x : Session × List Attempt}
    (waiting : x.1.awaitingKeyframe = true ↔ Waits x.2) (c : Call) :
    (record x c).1.awaitingKeyframe = true ↔ Waits (record x c).2 := by
  cases c with
  | decode memory packet =>
    change (x.1.decode memory packet).1.awaitingKeyframe = true ↔ Waits (_ :: x.2)
    rw [decode_awaiting, waits_cons]
    dsimp only [Attempt.accepted]
    cases isKeyframe packet with
    | true => simp
    | false => exact waiting
  | reset => exact ⟨fun _ => .inl nofun, fun _ => rfl⟩

theorem records_waiting {x : Session × List Attempt}
    (waiting : x.1.awaitingKeyframe = true ↔ Waits x.2) (calls : List Call) :
    (calls.foldl record x).1.awaitingKeyframe = true ↔ Waits (calls.foldl record x).2 := by
  induction calls generalizing x with
  | nil => exact waiting
  | cons c calls ih => exact ih (record_waiting waiting c)

structure Recorded (s : Session) (attempts : List Attempt) : Prop where
  ready : s.awaitingKeyframe = false → s.stream.isSome = true
  frameCount : s.frameCount = attempts.countP Attempt.accepted

theorem decode_ready (ready : s.awaitingKeyframe = false → s.stream.isSome = true)
    (memory : Memory) (packet : ByteArray)
    (streaming : (s.decode memory packet).1.awaitingKeyframe = false) :
    (s.decode memory packet).1.stream.isSome = true := by
  apply decode_stream
  rw [decode_awaiting] at streaming
  split at streaming
  · left
    simpa using streaming
  · rename_i inter
    exact .inr ⟨Bool.eq_false_of_not_eq_true inter, ready streaming⟩

theorem Recorded.record {x : Session × List Attempt} (recorded : Recorded x.1 x.2) (c : Call) :
    Recorded (record x c).1 (record x c).2 := by
  cases c with
  | decode memory packet =>
    refine ⟨decode_ready recorded.ready memory packet, ?_⟩
    change (x.1.decode memory packet).1.frameCount = List.countP _ (_ :: x.2)
    rw [decode_frameCount, recorded.frameCount, List.countP_cons]
    change _ = _ + if (x.1.decode memory packet).2.toBool = true then 1 else 0
    cases (x.1.decode memory packet).2.toBool <;> rfl
  | reset => exact ⟨nofun, rfl⟩

theorem Recorded.records {x : Session × List Attempt} (recorded : Recorded x.1 x.2)
    (calls : List Call) :
    Recorded (calls.foldl Session.record x).1 (calls.foldl Session.record x).2 := by
  induction calls generalizing x with
  | nil => exact recorded
  | cons c calls ih => exact ih (recorded.record c)

/-- A packet is refused, for want of a keyframe if its preamble is in order, and nothing but marks
    of damage changes. -/
def Refuses (s : Session) (memory : Memory) (packet : ByteArray) : Prop :=
  ∃ e, (s.decode memory packet).2 = .error e ∧
    (∀ preamble, Preamble.parse packet = .ok preamble → e = .missingKeyframe) ∧
    (s.decode memory packet).1.unmarked = s.unmarked

theorem enter_awaiting {preamble : Preamble} (awaiting : s.awaitingKeyframe = true)
    (inter : preamble.keyframeSize = none) : s.enter memory preamble = .error .missingKeyframe := by
  unfold enter
  rw [inter, awaiting]

theorem decodePacket_awaiting (awaiting : s.awaitingKeyframe = true)
    (inter : isKeyframe packet = false) :
    ∃ e, s.decodePacket memory packet = (s, .error e) ∧
      ∀ preamble, Preamble.parse packet = .ok preamble → e = .missingKeyframe := by
  unfold decodePacket
  cases parsed : Preamble.parse packet with
  | error e => exact ⟨e, rfl, nofun⟩
  | ok preamble =>
    dsimp only
    rw [enter_awaiting awaiting (Preamble.parse_inter parsed inter)]
    exact ⟨.missingKeyframe, rfl, fun _ _ => rfl⟩

theorem refuses_awaiting (awaiting : s.awaitingKeyframe = true)
    (inter : isKeyframe packet = false) : s.Refuses memory packet := by
  obtain ⟨e, refused, missing⟩ := decodePacket_awaiting awaiting inter
  have decoded := decode_of_refused inter refused
  refine ⟨e, congrArg Prod.snd decoded, missing, ?_⟩
  rw [decoded]
  exact s.unmarked_recover false e

/-- After any calls, a session waits for a keyframe exactly if none was submitted to it since its
    start or the last reset, or if the most recent one was refused. If it does not wait it has a
    stream, and only then it accepts other packets: else it refuses them and stays as it is. It has
    counted the packets that it accepted. -/
theorem keyframes_rule_session (limits : Limits) (calls : List Call) :
    let x := calls.foldl record (start limits, [])
    (x.1.awaitingKeyframe = true ↔ Waits x.2) ∧
      (x.1.awaitingKeyframe = false → x.1.stream.isSome = true) ∧
      (∀ memory packet, isKeyframe packet = false →
        (∀ frame, (x.1.decode memory packet).2 = .ok frame → x.1.awaitingKeyframe = false) ∧
          (x.1.awaitingKeyframe = true → x.1.Refuses memory packet)) ∧
      x.1.frameCount = x.2.countP Attempt.accepted := by
  intro x
  have waiting : x.1.awaitingKeyframe = true ↔ Waits x.2 :=
    records_waiting (x := (start limits, [])) ⟨fun _ => .inl nofun, fun _ => rfl⟩ calls
  have recorded : Recorded x.1 x.2 :=
    Recorded.records (x := (start limits, [])) ⟨nofun, rfl⟩ calls
  refine ⟨waiting, recorded.ready, fun memory packet inter => ⟨?_, ?_⟩, recorded.frameCount⟩
  · intro frame accepted
    by_contra awaiting
    obtain ⟨e, refused, _⟩ := refuses_awaiting (Bool.eq_true_of_not_eq_false awaiting) inter
    rw [refused] at accepted
    contradiction
  · intro awaiting
    exact refuses_awaiting awaiting inter

end Session

end Vp8
