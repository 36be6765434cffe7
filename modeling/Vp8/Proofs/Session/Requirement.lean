import Vp8.Proofs.Session.Awaiting
import Vp8.Proofs.Session.Safety

/-!
What errors ask of a caller. After an error that requires a keyframe a session waits for one, unless
it does not know the version of a packet that is no keyframe: it passes such a packet over. An error
that is recoverable leaves the flag as it is.
-/
namespace Vp8

/-- A packet that is no keyframe has a bad preamble because it is damaged, or for its version. -/
theorem Preamble.parse_error {packet : ByteArray} {e : DecodeError}
    (inter : isKeyframe packet = false) (failed : parse packet = .error e) :
    e.requiresKeyframe = false ∨ ∃ number, e = .unsupportedFeature (.version number) := by
  unfold parse at failed
  cases tagged : FrameTag.parse packet with
  | error e' =>
    rw [tagged] at failed
    cases failed
    obtain ⟨damage, rfl, _⟩ := FrameTag.parse_corrupts packet e tagged
    exact .inl rfl
  | ok tag =>
    have other : tag.keyframe = false := (FrameTag.parse_keyframe tagged).trans inter
    rw [tagged] at failed
    change (if 3 < tag.version then _ else _) = _ at failed
    split at failed
    · cases failed
      exact .inr ⟨tag.version, rfl⟩
    · split at failed
      · cases failed
        exact .inl rfl
      · rw [other] at failed
        contradiction

namespace Session

variable {s : Session} {memory : Memory} {packet : ByteArray} {e : DecodeError}

theorem Reachable.ready (reachable : s.Reachable) :
    s.awaitingKeyframe = false → s.stream.isSome = true := by
  induction reachable with
  | start limits => exact nofun
  | call reachable c ih =>
    cases c with
    | decode memory packet => exact decode_ready ih memory packet
    | reset => exact nofun

theorem enter_streaming (memory : Memory) {preamble : Preamble} (reachable : s.Reachable)
    (streaming : s.awaitingKeyframe = false) (inter : preamble.keyframeSize = none) :
    ∃ t, s.enter memory preamble = .ok (t, s.carried) := by
  obtain ⟨t, present⟩ := Option.isSome_iff_exists.mp (reachable.ready streaming)
  refine ⟨t, ?_⟩
  unfold enter
  rw [inter, streaming, present]

theorem decodePacket_streaming (reachable : s.Reachable) (streaming : s.awaitingKeyframe = false)
    (inter : isKeyframe packet = false) (failed : (s.decodePacket memory packet).2 = .error e) :
    e.requiresKeyframe = false ∨
      (∃ number, e = .unsupportedFeature (.version number)) ∧
        (s.decodePacket memory packet).1 = s := by
  unfold decodePacket at failed ⊢
  cases parsed : Preamble.parse packet with
  | error e' =>
    rw [parsed] at failed
    cases failed
    exact (Preamble.parse_error inter parsed).imp id fun version => ⟨version, rfl⟩
  | ok preamble =>
    obtain ⟨t, entered⟩ :=
      enter_streaming memory reachable streaming (Preamble.parse_inter parsed inter)
    have balanced : t.pool.Balanced :=
      enter_keeps Stream.balanced_invariant reachable.balanced parsed entered
    rw [parsed] at failed
    dsimp only at failed
    rw [entered] at failed
    -- the stream is there, so what is left to refuse the packet for is damage
    obtain ⟨damage, rfl, _⟩ := decodeFrom_corrupts balanced e failed
    exact .inl rfl

theorem decode_error (refused : (s.decode memory packet).2 = .error e) :
    ∃ e', (s.decodePacket memory packet).2 = .error e' ∧
      (s.decode memory packet).1 =
        ((s.decodePacket memory packet).1.recover (isKeyframe packet) e').1 ∧
      e = if isKeyframe packet then e'.ofKeyframe else e' := by
  unfold decode at refused ⊢
  generalize s.decodePacket memory packet = x at refused ⊢
  obtain ⟨u, e' | frame⟩ := x
  · refine ⟨e', rfl, rfl, ?_⟩
    rw [← u.recover_error, Except.error.inj refused]
  · contradiction

theorem ofKeyframe_not_recoverable (e : DecodeError) : e.ofKeyframe.isRecoverable = false := by
  cases e <;> rfl

theorem recover_unsupported (s : Session) (feature : Feature) :
    (s.recover false (.unsupportedFeature feature)).1 = s := rfl

structure PassesOver (s : Session) (packet : ByteArray) (e : DecodeError) : Prop where
  streaming : s.awaitingKeyframe = false
  inter : isKeyframe packet = false
  version : ∃ number, e = .unsupportedFeature (.version number)

theorem awaiting_of_error (refused : (s.decode memory packet).2 = .error e) :
    (s.decode memory packet).1.awaitingKeyframe = (s.awaitingKeyframe || isKeyframe packet) := by
  rw [decode_awaiting, refused]
  cases isKeyframe packet <;> simp [Except.toBool]

/-- Until a keyframe is accepted, every other packet is refused. -/
def Enforces (s : Session) : Prop :=
  ∀ calls : List Call, let x := calls.foldl record (s, [])
    (∀ a ∈ x.2, isKeyframe a.packet = true → a.accepted = false) →
      ∀ memory packet, isKeyframe packet = false → x.1.Refuses memory packet

theorem enforces_of_awaiting (awaiting : s.awaitingKeyframe = true) : s.Enforces := by
  intro calls x none memory packet inter
  have waiting : x.1.awaitingKeyframe = true ↔ Waits x.2 :=
    records_waiting (x := (s, [])) ⟨fun _ => .inl nofun, fun _ => awaiting⟩ calls
  exact refuses_awaiting (waiting.mpr (waits_of_refused none)) inter

theorem passesOver_of_streaming (reachable : s.Reachable)
    (refused : (s.decode memory packet).2 = .error e) (required : e.requiresKeyframe = true)
    (streaming : (s.decode memory packet).1.awaitingKeyframe = false) :
    s.PassesOver packet e ∧ (s.decode memory packet).1 = s := by
  rw [awaiting_of_error refused, Bool.or_eq_false_iff] at streaming
  obtain ⟨before, inter⟩ := streaming
  obtain ⟨e', failed, after, answer⟩ := decode_error refused
  rw [inter] at after answer
  change e = e' at answer
  subst answer
  obtain recoverable | ⟨⟨number, version⟩, same⟩ :=
    decodePacket_streaming reachable before inter failed
  · rw [required] at recoverable
    contradiction
  · refine ⟨⟨before, inter, number, version⟩, ?_⟩
    rw [after, same, version, recover_unsupported]

/-- An error that requires a keyframe leaves a session that refuses all other packets until a
    keyframe is accepted, or else a session that has passed the packet over and is as it was. An
    error that is recoverable leaves the flag as it is. -/
theorem required_keyframe_is_awaited (reachable : s.Reachable)
    (refused : (s.decode memory packet).2 = .error e) :
    (e.requiresKeyframe = true →
      ((s.decode memory packet).1.awaitingKeyframe = true ∧ (s.decode memory packet).1.Enforces ↔
          ¬ s.PassesOver packet e) ∧
        (s.PassesOver packet e → (s.decode memory packet).1 = s)) ∧
      (e.isRecoverable = true →
        (s.decode memory packet).1.awaitingKeyframe = s.awaitingKeyframe) := by
  constructor
  · intro required
    refine ⟨⟨?_, ?_⟩, ?_⟩
    · rintro ⟨awaiting, _⟩ passes
      rw [awaiting_of_error refused, passes.streaming, passes.inter] at awaiting
      contradiction
    · intro enforced
      have awaiting : (s.decode memory packet).1.awaitingKeyframe = true := by
        by_contra streaming
        rw [Bool.not_eq_true] at streaming
        exact enforced (passesOver_of_streaming reachable refused required streaming).1
      exact ⟨awaiting, enforces_of_awaiting awaiting⟩
    · intro passes
      refine (passesOver_of_streaming reachable refused required ?_).2
      rw [awaiting_of_error refused, passes.streaming, passes.inter]
      rfl
  · intro recoverable
    obtain ⟨e', _, _, answer⟩ := decode_error refused
    rw [awaiting_of_error refused]
    cases keyframe : isKeyframe packet with
    | true =>
      -- damage to a keyframe is reported as an error of its own kind
      rw [keyframe, if_pos rfl] at answer
      rw [answer, ofKeyframe_not_recoverable] at recoverable
      contradiction
    | false => exact Bool.or_false _

/-- A frame of version four. -/
def futureFrame : ByteArray := ⟨#[0x09, 0x00, 0x00]⟩

theorem future_frame_passed :
    changed.decode .ample futureFrame = (changed, .error (.unsupportedFeature (.version 4))) := by
  have inter : isKeyframe futureFrame = false := by decide +kernel
  have rejected : changed.commitFrame .ample futureFrame =
      .error (.unsupportedFeature (.version 4)) := by decide +kernel
  rw [decode_of_refused inter (decodePacket_rejected changed_reachable.balanced inter rejected),
    recover_unsupported]

theorem changed_streaming : changed.awaitingKeyframe = false := by decide +kernel

theorem required_keyframe_of_future_frame :
    ¬ ((changed.decode .ample futureFrame).1.awaitingKeyframe = true ∧
        (changed.decode .ample futureFrame).1.Enforces) ∧
      (changed.decode .ample futureFrame).1 = changed := by
  have passes : changed.PassesOver futureFrame (.unsupportedFeature (.version 4)) :=
    ⟨changed_streaming, by decide +kernel, 4, rfl⟩
  have refused := congrArg Prod.snd future_frame_passed
  obtain ⟨awaited, kept⟩ := (required_keyframe_is_awaited changed_reachable refused).1 rfl
  exact ⟨fun enforced => awaited.mp enforced passes, kept passes⟩

/-- An error asks for a keyframe, and the next frame is accepted without one. -/
theorem required_keyframe_is_not_awaited :
    changed.Reachable ∧ ∃ e, (changed.decode .ample futureFrame).2 = .error e ∧
      e.requiresKeyframe = true ∧ (changed.decode .ample futureFrame).1.awaitingKeyframe = false ∧
      isKeyframe goldenFrame = false ∧
      ((changed.decode .ample futureFrame).1.decode .ample goldenFrame).2.toBool = true := by
  have refused := congrArg Prod.snd future_frame_passed
  refine ⟨changed_reachable, _, refused, rfl, ?_, ?_, ?_⟩
  · rw [future_frame_passed]
    exact changed_streaming
  · decide +kernel
  · rw [future_frame_passed]
    decide +kernel

end Session

end Vp8
