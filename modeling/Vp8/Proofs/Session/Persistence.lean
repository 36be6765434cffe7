import Vp8.Proofs.Frame.Preamble
import Vp8.Proofs.Session.Steps

/-!
Which probability tables an accepted packet leaves behind. A frame that keeps its tables leaves
those with its own updates. Any other frame leaves the tables from before the packet; a keyframe
started from the default ones in between.
-/
namespace Vp8

namespace Session

variable {s : Session} {memory : Memory} {packet : ByteArray} {frame : Frame}

def headers (s : Session) (memory : Memory) (packet : ByteArray) :
    Except DecodeError (Carried × Headers) := do
  let preamble ← Preamble.parse packet
  let (_, before) ← s.enter memory preamble
  let h ← Headers.read packet preamble before
  return (before, h)

theorem headers_ok {before : Carried} {h : Headers} :
    s.headers memory packet = .ok (before, h) ↔
      ∃ preamble t, Preamble.parse packet = .ok preamble ∧
        s.enter memory preamble = .ok (t, before) ∧
          Headers.read packet preamble before = .ok h := by
  unfold headers
  rw [bind_ok]
  refine exists_congr fun preamble => ?_
  rw [bind_ok]
  constructor
  · rintro ⟨parsed, ⟨t, _⟩, entered, done⟩
    obtain ⟨_, read, same⟩ := bind_ok.mp done
    cases same
    exact ⟨t, parsed, entered, read⟩
  · rintro ⟨t, parsed, entered, read⟩
    exact ⟨parsed, (t, before), entered, bind_ok.mpr ⟨h, read, rfl⟩⟩

/-- A keyframe goes on from defaults, any other frame from what the session holds. -/
theorem enter_carried {preamble : Preamble} {t : Stream} {before : Carried}
    (entered : s.enter memory preamble = .ok (t, before)) :
    before = if preamble.keyframeSize.isSome then .default else s.carried := by
  unfold enter at entered
  split at entered
  · rename_i size present
    obtain ⟨_, _, same⟩ := bind_ok.mp entered
    cases same
    rw [present]
    rfl
  · rename_i absent
    rw [absent]
    split at entered
    · cases entered
      rfl
    · contradiction

theorem headers_keyframe {before : Carried} {h : Headers}
    (read : s.headers memory packet = .ok (before, h)) (keyframe : isKeyframe packet = true) :
    ∃ preamble, Preamble.parse packet = .ok preamble ∧
      Headers.read packet preamble .default = .ok h := by
  obtain ⟨preamble, t, parsed, entered, read⟩ := headers_ok.mp read
  have start := enter_carried entered
  rw [(Preamble.parse_keyframe parsed).2, keyframe] at start
  rw [start] at read
  exact ⟨preamble, parsed, read⟩

theorem decode_carried (accepted : (s.decode memory packet).2 = .ok frame) :
    ∃ before h, s.headers memory packet = .ok (before, h) ∧
      before = (if isKeyframe packet then .default else s.carried) ∧
      (s.decode memory packet).1.carried = settle s.carried h := by
  obtain ⟨inner, same⟩ := decode_ok accepted
  obtain ⟨preamble, t, before, parsed, entered, begun⟩ := decodePacket_ok inner
  rw [begun] at inner
  obtain ⟨h, read, _, carried⟩ := decodeFrom_ok inner
  refine ⟨before, h, headers_ok.mpr ⟨preamble, t, parsed, entered, read⟩, ?_, ?_⟩
  · rw [← (Preamble.parse_keyframe parsed).2]
    exact enter_carried entered
  · rw [same, begun]
    exact carried

/-- The tables with the updates of an accepted packet stay in force if its header says so. If it
    does not, the tables from before the packet do. These are the ones that the packet updated,
    unless it is a keyframe: a keyframe updates the default tables, which makes the outcome a matter
    of its packet alone, and then leaves what earlier frames have left. -/
theorem entropy_after_packet (accepted : (s.decode memory packet).2 = .ok frame) :
    ∃ before h, s.headers memory packet = .ok (before, h) ∧
      before.entropy = (if isKeyframe packet then .default else s.carried.entropy) ∧
      (isKeyframe packet = true → ∃ preamble, Preamble.parse packet = .ok preamble ∧
        Headers.read packet preamble .default = .ok h) ∧
      (s.decode memory packet).1.carried.entropy =
        (if h.header.refreshEntropy then h.carried.entropy else s.carried.entropy) ∧
      ((s.decode memory packet).1.carried.entropy =
          (if h.header.refreshEntropy then h.carried.entropy else before.entropy) ↔
        h.header.refreshEntropy = true ∨ isKeyframe packet = false ∨
          s.carried.entropy = .default) := by
  obtain ⟨before, h, read, start, carried⟩ := decode_carried accepted
  have tables : before.entropy = if isKeyframe packet then .default else s.carried.entropy := by
    rw [start]
    split <;> rfl
  have after : (s.decode memory packet).1.carried.entropy =
      if h.header.refreshEntropy then h.carried.entropy else s.carried.entropy := by
    rw [carried]
    unfold settle
    split <;> rfl
  refine ⟨before, h, read, tables, headers_keyframe read, after, ?_⟩
  rw [after, tables]
  cases h.header.refreshEntropy <;> cases isKeyframe packet <;> simp

/-- A keyframe that passes leaves tables of earlier frames, if these are not the default ones. -/
theorem passing_keyframe (accepted : (s.decode memory packet).2 = .ok frame)
    (keyframe : isKeyframe packet = true)
    (passing : (s.headers memory packet).toOption.map (fun read => read.2.header.refreshEntropy) =
      some false) (changed : s.carried.entropy ≠ .default) :
    ∃ before h, s.headers memory packet = .ok (before, h) ∧
      (s.decode memory packet).1.carried.entropy ≠
        (if h.header.refreshEntropy then h.carried.entropy else before.entropy) := by
  obtain ⟨before, h, read, start, after⟩ := decode_carried accepted
  rw [read] at passing
  have refresh : h.header.refreshEntropy = false := Option.some.inj passing
  refine ⟨before, h, read, ?_⟩
  rw [after, settle, refresh, start, keyframe]
  exact changed

/-- A keyframe of one macroblock. It changes no table, and asks for the earlier ones afterwards. -/
def passingKeyframe : ByteArray :=
  ⟨#[0x10, 0x01, 0x00, 0x9d, 0x01, 0x2a, 0x10, 0x00, 0x10, 0x00,
    0x00, 0x00, 0x00, 0x00, 0x00, 0x18, 0x65, 0xa0, 0x00]⟩

theorem passing_accepted : (changed.decode .ample passingKeyframe).2.toBool = true := by
  decide +kernel

theorem passing_refresh :
    (changed.headers .ample passingKeyframe).toOption.map
      (fun read => read.2.header.refreshEntropy) = some false := by decide +kernel

theorem changed_entropy : changed.carried.entropy ≠ .default := by decide +kernel

theorem entropy_after_passing_keyframe :
    ∃ frame before h, (changed.decode .ample passingKeyframe).2 = .ok frame ∧
      changed.headers .ample passingKeyframe = .ok (before, h) ∧
      (changed.decode .ample passingKeyframe).1.carried.entropy =
        (if h.header.refreshEntropy then h.carried.entropy else changed.carried.entropy) := by
  obtain ⟨frame, accepted⟩ := ok_of_toBool passing_accepted
  obtain ⟨before, h, read, _, _, after, _⟩ := entropy_after_packet accepted
  exact ⟨frame, before, h, accepted, read, after⟩

/-- The tables that this keyframe started from are not those it leaves. -/
theorem passing_keyframe_leaves_earlier_tables :
    ∃ frame before h, (changed.decode .ample passingKeyframe).2 = .ok frame ∧
      changed.headers .ample passingKeyframe = .ok (before, h) ∧
      (changed.decode .ample passingKeyframe).1.carried.entropy ≠
        (if h.header.refreshEntropy then h.carried.entropy else before.entropy) := by
  obtain ⟨frame, accepted⟩ := ok_of_toBool passing_accepted
  obtain ⟨before, h, read, stale⟩ :=
    passing_keyframe accepted (by decide +kernel) passing_refresh changed_entropy
  exact ⟨frame, before, h, accepted, read, stale⟩

end Session

end Vp8
