import Vp8.Proofs.Session.Checked

/-!
No packet makes a session fail on its own account. Every access is in range for every sequence of
calls, and so is every access to the pixels of the frames that they yield; whatever is refused is
refused because of what the packet says or for want of memory.
-/
namespace Vp8

/-- Neither a packet nor memory could be at fault for this. -/
def Damage.internal : Damage → Bool
  | .noFreeBuffer | .noTokenPartition | .missingReference => true
  | _ => false

def DecodeError.internal : DecodeError → Bool
  | .corruptFrame damage | .corruptKeyframe damage => damage.internal
  | _ => false

/-- An error, if there is one, is due to the packet or to memory. -/
def External {α : Type} (x : Except DecodeError α) : Prop := ∀ e, x = .error e → e.internal = false

namespace External

variable {α : Type}

theorem ok (a : α) : External (.ok a) := nofun

theorem error {e : DecodeError} (external : e.internal = false) :
    External (.error e : Except DecodeError α) := by
  rintro _ ⟨⟩
  exact external

end External

def Corrupts {α : Type} (x : Except DecodeError α) : Prop :=
  ∀ e, x = .error e → ∃ damage, e = .corruptFrame damage ∧ damage.internal = false

namespace Corrupts

variable {α β : Type}

theorem ok (a : α) : Corrupts (.ok a) := nofun

theorem error {damage : Damage} (external : damage.internal = false) :
    Corrupts (.error (.corruptFrame damage) : Except DecodeError α) := by
  rintro _ ⟨⟩
  exact ⟨damage, rfl, external⟩

theorem bind {x : Except DecodeError α} {f : α → Except DecodeError β} (corrupts : Corrupts x)
    (next : ∀ a, Corrupts (f a)) : Corrupts (x >>= f) := by
  cases x with
  | error e =>
    obtain ⟨damage, rfl, external⟩ := corrupts e rfl
    exact error external
  | ok a => exact next a

theorem external {x : Except DecodeError α} (corrupts : Corrupts x) : External x := by
  intro e failed
  obtain ⟨damage, rfl, external⟩ := corrupts e failed
  exact external

end Corrupts

namespace FrameTag

theorem parse_corrupts (data : ByteArray) : Corrupts (parse data) := by
  unfold parse
  split
  · exact .ok _
  · exact .error rfl

end FrameTag

namespace Preamble

theorem parse_external (data : ByteArray) : External (parse data) := by
  intro e refused
  cases parse_refusal refused <;> rfl

end Preamble

namespace Partition

theorem cut_corrupts (data : ByteArray) (number start : Nat) (sizes : List Nat) :
    Corrupts (cut data number start sizes) := by
  induction sizes generalizing number start with
  | nil =>
    unfold cut
    split
    · exact .error rfl
    · exact .ok _
  | cons size sizes ih =>
    unfold cut
    split
    · exact .error rfl
    · exact (ih _ _).bind fun _ => .ok _

theorem split_corrupts (data : ByteArray) (start count : Nat) :
    Corrupts (split data start count) := by
  unfold split
  dsimp only
  split
  · exact cut_corrupts _ _ _ _
  · exact .error rfl

end Partition

theorem FrameHeader.read_corrupts (keyframe : Bool) (c : Carried) :
    (read keyframe c).Yields fun a => Corrupts a.1 := by
  unfold read
  refine Coded.Yields.after _ fun start => Coded.Yields.after _ fun references => ?_
  cases references with
  | none => exact Corrupts.error rfl
  | some references => exact Coded.Yields.after _ fun rest => Corrupts.ok _

theorem Headers.read_corrupts (packet : ByteArray) (preamble : Preamble) (carried : Carried) :
    Corrupts (Headers.read packet preamble carried) := by
  have header := (FrameHeader.read_corrupts preamble.tag.keyframe carried).read
    (.ofBytes (packet.extract preamble.size packet.size))
  rw [read_eq]
  exact Corrupts.bind header fun _ => (Partition.split_corrupts _ _ _).bind fun _ => .ok _

theorem Stream.configure_external (limits : Limits) (memory : Memory) (old : Option Stream)
    (size : KeyframeSize) : External (configure limits memory old size) := by
  intro e refused
  obtain ⟨_, rfl⟩ | ⟨_, bytes, rfl⟩ := configure_error refused
  · rfl
  · rfl

theorem Stream.decode_corrupts {t : Stream} {h : Headers} (balanced : t.pool.Balanced)
    (some : h.partitions ≠ []) : Corrupts (t.decode h).2 := by
  intro e failed
  obtain ⟨_, rfl⟩ := decode_error balanced some failed
  exact ⟨_, rfl, rfl⟩

namespace Session

variable {s : Session}

theorem enter_external (s : Session) (memory : Memory) (preamble : Preamble) :
    External (s.enter memory preamble) := by
  intro e refused
  obtain ⟨_, rfl⟩ | ⟨size, _, configured⟩ := enter_error refused
  · rfl
  · exact Stream.configure_external _ _ _ _ e configured

theorem decodeFrom_corrupts {packet : ByteArray} {preamble : Preamble} {t : Stream}
    {carried : Carried} (balanced : t.pool.Balanced) :
    Corrupts (s.decodeFrom packet preamble t carried).2 := by
  have headers := Headers.read_corrupts packet preamble carried
  unfold decodeFrom
  cases read : Headers.read packet preamble carried with
  | error e =>
    obtain ⟨damage, rfl, external⟩ := headers e read
    exact .error external
  | ok h =>
    have frame := Stream.decode_corrupts balanced (Headers.read_partitions read)
    dsimp only
    generalize t.decode h = decoded at frame
    obtain ⟨u, e | _ | _⟩ := decoded
    · obtain ⟨damage, rfl, external⟩ := frame e rfl
      exact .error external
    · exact .ok _
    · exact .error rfl

theorem decodePacket_external (balanced : s.Balanced) (memory : Memory) (packet : ByteArray) :
    External (s.decodePacket memory packet).2 := by
  have preamble := Preamble.parse_external packet
  unfold decodePacket
  cases parsed : Preamble.parse packet with
  | error e => exact .error (preamble e parsed)
  | ok preamble =>
    have entry := s.enter_external memory preamble
    dsimp only
    cases entered : s.enter memory preamble with
    | error e => exact .error (entry e entered)
    | ok enter =>
      have counted := enter_keeps Stream.balanced_invariant balanced parsed entered
      exact (decodeFrom_corrupts counted).external

theorem recover_internal (s : Session) (keyframe : Bool) (e : DecodeError) :
    (s.recover keyframe e).2.internal = e.internal := by
  cases keyframe <;> cases e <;> rfl

theorem decode_external (balanced : s.Balanced) (memory : Memory) (packet : ByteArray) :
    External (s.decode memory packet).2 := by
  have inner := decodePacket_external balanced memory packet
  unfold decode
  generalize s.decodePacket memory packet = decoded at inner
  obtain ⟨u, e | frame⟩ := decoded
  · exact .error ((u.recover_internal _ e).trans (inner e rfl))
  · exact .ok _

def call? (s : Session) :
    Call → Option (Session × Option (Except DecodeError (Frame × ByteArray)))
  | .decode memory packet => do
    match ← s.decode? memory packet with
    | (s, .error e) => return (s, some (.error e))
    | (s, .ok frame) => return (s, some (.ok (frame, ← frame.toI420?)))
  | .reset => return (s.reset, none)

def answers? (s : Session) :
    List Call → Option (List (Option (Except DecodeError (Frame × ByteArray))))
  | [] => return []
  | c :: calls => do
    let (s, answer) ← s.call? c
    return answer :: (← s.answers? calls)

def withPixels (answer : Except DecodeError Frame) : Except DecodeError (Frame × ByteArray) :=
  answer.map fun frame => (frame, frame.toI420)

theorem call?_eq (balanced : s.Balanced) (visible : s.Keeps Stream.Visible) (c : Call) :
    s.call? c = some ((s.call c).1, (s.call c).2.map withPixels) := by
  cases c with
  | reset => rfl
  | decode memory packet =>
    unfold call? call
    dsimp only
    rw [decode?_eq balanced visible]
    dsimp only [Option.bind_eq_bind, Option.bind_some]
    generalize s.decode memory packet = decoded
    obtain ⟨u, e | frame⟩ := decoded
    · rfl
    · dsimp only
      rw [frame.toI420?_eq]
      rfl

theorem Reachable.answers?_eq (reachable : s.Reachable) (calls : List Call) :
    s.answers? calls = some ((s.answers calls).map (Option.map withPixels)) := by
  induction calls generalizing s with
  | nil => rfl
  | cons c calls ih =>
    unfold answers? answers
    rw [call?_eq reachable.balanced reachable.visible]
    dsimp only [Option.bind_eq_bind, Option.bind_some]
    rw [ih (reachable.call c)]
    rfl

theorem Reachable.answers_external (reachable : s.Reachable) {calls : List Call}
    {answer : Except DecodeError Frame} (given : some answer ∈ s.answers calls) :
    External answer := by
  induction calls generalizing s with
  | nil => contradiction
  | cons c calls ih =>
    unfold answers at given
    rcases List.mem_cons.mp given with first | later
    · cases c with
      | reset => contradiction
      | decode memory packet =>
        cases first
        exact decode_external reachable.balanced memory packet
    · exact ih (reachable.call c) later

/-- Whatever is called with whatever packets, every access is in range, to the pixels of every frame
    as well, and nothing is refused but for what a packet says or for want of memory. -/
theorem calls_complete (limits : Limits) (calls : List Call) :
    (start limits).answers? calls =
        some (((start limits).answers calls).map (Option.map withPixels)) ∧
      ∀ answer, some answer ∈ (start limits).answers calls → External answer := by
  have reachable : (start limits).Reachable := .start limits
  exact ⟨reachable.answers?_eq calls, fun answer given => reachable.answers_external given⟩

end Session

end Vp8
