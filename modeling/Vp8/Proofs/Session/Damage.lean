import Vp8.Proofs.Frame.Preamble
import Vp8.Proofs.Image.Ledger
import Vp8.Proofs.Session.Completion

/-!
Damage is never forgotten. A record is kept beside the session of every picture that it commits,
which of them are damaged and which the references hold. The marks of the session agree with it
after any calls.
-/
namespace Vp8

theorem Picture.deblock_damaged (p : Picture rows cols) (settings : FilterSettings)
    (level : Macroblock → Nat) (g : Grid rows cols) :
    (p.deblock settings level g).damaged = p.damaged := by
  unfold deblock
  split
  · rfl
  · apply foldl_keeps damaged
    intro p r
    apply foldl_keeps damaged
    intro p c
    unfold filterAt
    dsimp only
    split
    · rfl
    · unfold filterMacroblock
      dsimp only
      cases settings.kind <;> rfl

namespace Ledger

def frame (l : Ledger) (t : Stream) (h : Headers) : Ledger :=
  match (t.decode h).2 with
  | .error _ => l
  | .ok overrun => l.commit h.header.references (t.modes h).1 overrun

def enter (l : Ledger) (s : Session) (preamble : Preamble) : Ledger :=
  match preamble.keyframeSize with
  | some size => if s.dimensions = (size.width, size.height) then l else l.renew
  | none => l

def behind (l : Ledger) (packet : ByteArray) (preamble : Preamble) (t : Stream)
    (carried : Carried) : Ledger :=
  match Headers.read packet preamble carried with
  | .error _ => l
  | .ok h => l.frame t h

def packet (l : Ledger) (s : Session) (memory : Memory) (packet : ByteArray) : Ledger :=
  match Preamble.parse packet with
  | .error _ => l
  | .ok preamble =>
    match s.enter memory preamble with
    | .error _ => l
    | .ok (t, carried) => (l.enter s preamble).behind packet preamble t carried

/-- The last picture counts as damaged after a corrupt frame that is no keyframe. -/
def answer (l : Ledger) (keyframe : Bool) : Except DecodeError Frame → Ledger
  | .error (.corruptFrame _) => if keyframe then l else l.loseLast
  | _ => l

def decode (l : Ledger) (s : Session) (memory : Memory) (data : ByteArray) : Ledger :=
  (l.packet s memory data).answer (isKeyframe data) (s.decode memory data).2

def call (l : Ledger) (s : Session) : Call → Ledger
  | .decode memory data => l.decode s memory data
  | .reset => l

end Ledger

namespace Stream

variable {t : Stream} {h : Headers} {l : Ledger}

theorem finish_damaged (h : Headers) (p : Picture rows cols) (g : Grid rows cols)
    (overrun : Bool) :
    (finish h p g overrun).damaged = (p.damaged || overrun) := by
  unfold finish
  dsimp only [Picture.extend]
  rw [Picture.deblock_damaged]

theorem spoils_iff (tracks : l.Tracks t.pool) :
    t.Spoils h ↔ ∃ y x, l.spoils ((t.modes h).1.get y x) = true := by
  unfold Spoils Ledger.spoils
  refine exists_congr fun y => exists_congr fun x => ?_
  generalize ((t.modes h).1.get y x).reference = a
  by_cases current : a = .current
  · simp only [current, ne_eq, not_true_eq_false, false_and, decide_false, Bool.false_and,
      Bool.false_eq_true]
  · simp only [ne_eq, current, not_false_eq_true, true_and, decide_true, Bool.true_and,
      List.contains_iff_mem, tracks.marked a current]

theorem decode_tracks (balanced : t.pool.Balanced) (some : h.partitions ≠ []) (sound : l.Sound)
    (tracks : l.Tracks t.pool) :
    (l.frame t h).Sound ∧ (l.frame t h).Tracks (t.decode h).1.pool ∧
      ∀ overrun tag, (t.decode h).2 = .ok overrun →
        (((t.decode h).1.frame tag).damaged = true ↔
          (l.frame t h).latest ∈ (l.frame t h).damaged) := by
  obtain ⟨pool, done, _, has, decoded, damaged⟩ := decode_completes balanced some
  unfold Ledger.frame
  rw [decoded]
  generalize (done.overrun || (t.modes h).2.overrun) = overrun
  by_cases lost : (overrun && h.tag.keyframe) = true
  · rw [conclude_lost lost]
    exact ⟨sound, tracks.abandon has _, nofun⟩
  · rw [conclude_kept lost]
    have marked : (finish h done.picture done.grid overrun).damaged = true ↔
        l.Spoilt (t.modes h).1 overrun := by
      unfold Ledger.Spoilt
      rw [finish_damaged, Bool.or_eq_true, damaged, spoils_iff tracks, or_comm]
    refine ⟨sound.commit _ _ _, tracks.commit sound has marked _, ?_⟩
    rintro _ tag ⟨⟩
    have latest : (l.commit h.header.references (t.modes h).1 overrun).latest = l.next := rfl
    unfold Stream.frame Frame.damaged
    dsimp only
    rw [PicturePool.commit_shown, PicturePool.picture_current, marked, latest, Ledger.mem_commit]
    simp only [true_and, sound.next_not_damaged, or_false]

end Stream

namespace Session

variable {s : Session} {l : Ledger} {memory : Memory}

structure Tracked (s : Session) (l : Ledger) : Prop where
  balanced : s.Balanced
  sound : l.Sound
  pools : ∀ t, s.stream = some t → l.Tracks t.pool

theorem dimensions_eq_iff {size : KeyframeSize} (visible : 0 < size.width ∧ 0 < size.height) :
    s.dimensions = (size.width, size.height) ↔
      ∃ t, s.stream = some t ∧ t.width = size.width ∧ t.height = size.height := by
  unfold dimensions
  cases s.stream with
  | none =>
    refine ⟨fun same => ?_, nofun⟩
    have zero : 0 = size.width := congrArg Prod.fst same
    omega
  | some t =>
    change (t.width, t.height) = _ ↔ _
    simp only [Prod.mk.injEq, Option.some.injEq, exists_eq_left']

theorem Tracked.enter (tracked : Tracked s l) {packet : ByteArray} {preamble : Preamble}
    (parsed : Preamble.parse packet = .ok preamble) {t : Stream} {carried : Carried}
    (entered : s.enter memory preamble = .ok (t, carried)) :
    (l.enter s preamble).Sound ∧ (l.enter s preamble).Tracks t.pool := by
  unfold Ledger.enter
  obtain ⟨noSize, _, stream, _⟩ | ⟨size, sized, configured, _⟩ := enter_ok entered
  · rw [noSize]
    exact ⟨tracked.sound, tracked.pools t stream⟩
  · have dimensions := dimensions_eq_iff (s := s) (Preamble.parse_visible parsed size sized)
    rw [sized]
    dsimp only
    obtain ⟨u, stream, same, rfl⟩ | ⟨other, rfl⟩ := Stream.configure_ok configured
    · rw [if_pos (dimensions.mpr ⟨u, stream, same⟩)]
      exact ⟨tracked.sound, tracked.pools u stream⟩
    · -- the old pictures are gone, and with them all that was known of them
      rw [if_neg fun same => by
        obtain ⟨u, stream, same⟩ := dimensions.mp same
        exact other u stream same]
      exact ⟨tracked.sound.renew, tracked.sound.renew_tracks⟩

/-- Behind the preamble, a session and its record go together, and so does the mark of the frame. -/
theorem Tracked.decodeFrom {t : Stream} (counted : t.pool.Balanced) (sound : l.Sound)
    (tracks : l.Tracks t.pool) (packet : ByteArray) (preamble : Preamble) (carried : Carried) :
    Tracked (s.decodeFrom packet preamble t carried).1 (l.behind packet preamble t carried) ∧
      ∀ frame, (s.decodeFrom packet preamble t carried).2 = .ok frame →
        (frame.damaged = true ↔ (l.behind packet preamble t carried).latest ∈
          (l.behind packet preamble t carried).damaged) := by
  have balanced : (s.decodeFrom packet preamble t carried).1.Balanced :=
    decodeFrom_keeps Stream.balanced_invariant counted
  unfold Session.decodeFrom at balanced ⊢
  unfold Ledger.behind
  cases read : Headers.read packet preamble carried with
  | error e =>
    rw [read] at balanced
    refine ⟨⟨balanced, sound, ?_⟩, nofun⟩
    rintro _ ⟨⟩
    exact tracks
  | ok h =>
    rw [read] at balanced
    dsimp only at balanced ⊢
    obtain ⟨sound', tracks', frames⟩ :=
      Stream.decode_tracks counted (Headers.read_partitions read) sound tracks
    generalize l.frame t h = l' at sound' tracks' frames ⊢
    generalize t.decode h = x at balanced tracks' frames ⊢
    obtain ⟨u, e | _ | _⟩ := x
    · refine ⟨⟨balanced, sound', ?_⟩, nofun⟩
      rintro _ ⟨⟩
      exact tracks'
    · refine ⟨⟨balanced, sound', ?_⟩, ?_⟩
      · rintro _ ⟨⟩
        exact tracks'
      · rintro _ ⟨⟩
        exact frames false h.tag rfl
    · refine ⟨⟨balanced, sound', ?_⟩, nofun⟩
      rintro _ ⟨⟩
      exact tracks'

theorem Tracked.giveUp (tracked : Tracked s l) (e : DecodeError) : Tracked (s.giveUp e) l := by
  cases e with
  | allocationFailed bytes => exact ⟨nofun, tracked.sound, nofun⟩
  | _ => exact tracked

theorem Tracked.decodePacket (tracked : Tracked s l) (memory : Memory) (packet : ByteArray) :
    Tracked (s.decodePacket memory packet).1 (l.packet s memory packet) ∧
      ∀ frame, (s.decodePacket memory packet).2 = .ok frame →
        (frame.damaged = true ↔
          (l.packet s memory packet).latest ∈ (l.packet s memory packet).damaged) := by
  unfold Session.decodePacket Ledger.packet
  cases parsed : Preamble.parse packet with
  | error e => exact ⟨tracked, nofun⟩
  | ok preamble =>
    dsimp only
    cases entered : s.enter memory preamble with
    | error e => exact ⟨tracked.giveUp e, nofun⟩
    | ok enter =>
      obtain ⟨sound, tracks⟩ := tracked.enter parsed entered
      have counted : enter.1.pool.Balanced :=
        enter_keeps Stream.balanced_invariant tracked.balanced parsed entered
      exact Tracked.decodeFrom counted sound tracks packet preamble enter.2

theorem Tracked.recover (tracked : Tracked s l) (keyframe : Bool) (e : DecodeError) :
    Tracked (s.recover keyframe e).1 (l.answer keyframe (.error (s.recover keyframe e).2)) := by
  have balanced : (s.recover keyframe e).1.Balanced :=
    recover_keeps Stream.balanced_invariant keyframe e tracked.balanced
  unfold Session.recover at balanced ⊢
  cases keyframe with
  | true =>
    have same : l.answer true (.error e.ofKeyframe) = l := by
      cases e <;> rfl
    rw [if_pos rfl, same]
    exact ⟨tracked.balanced, tracked.sound, tracked.pools⟩
  | false =>
    cases e with
    | corruptFrame damage =>
      refine ⟨balanced, tracked.sound.loseLast, ?_⟩
      intro t marked
      obtain ⟨u, present, rfl⟩ := Option.map_eq_some_iff.mp marked
      exact (tracked.pools u present).loseLast
    | _ => exact tracked

theorem Tracked.decode (tracked : Tracked s l) (memory : Memory) (packet : ByteArray) :
    Tracked (s.decode memory packet).1 (l.decode s memory packet) ∧
      ∀ frame, (s.decode memory packet).2 = .ok frame →
        (frame.damaged = true ↔
          (l.decode s memory packet).latest ∈ (l.decode s memory packet).damaged) := by
  obtain ⟨next, frames⟩ := tracked.decodePacket memory packet
  unfold Ledger.decode Session.decode
  generalize s.decodePacket memory packet = x at next frames ⊢
  obtain ⟨u, answer⟩ := x
  cases answer with
  | ok frame => exact ⟨next, frames⟩
  | error e => exact ⟨next.recover (isKeyframe packet) e, nofun⟩

def track (x : Session × Ledger) (c : Call) : Session × Ledger := ((x.1.call c).1, x.2.call x.1 c)

/-- Damaged pictures, and no others, have their mark: those of the references, and those that a
    further packet yields. -/
structure Marked (s : Session) (l : Ledger) : Prop where
  references : ∀ t, s.stream = some t → ∀ a, a ≠ .current →
    ((t.pool.picture a).damaged = true ↔ l.number a ∈ l.damaged)
  frames : ∀ memory packet frame, (s.decode memory packet).2 = .ok frame →
    (frame.damaged = true ↔ (l.decode s memory packet).latest ∈ (l.decode s memory packet).damaged)

theorem Tracked.marked (tracked : Tracked s l) : Marked s l := by
  constructor
  · intro t present a other
    exact (tracked.pools t present).marked a other
  · intro memory packet frame accepted
    exact (tracked.decode memory packet).2 frame accepted

theorem Tracked.call (tracked : Tracked s l) (c : Call) :
    Tracked (s.call c).1 (l.call s c) := by
  cases c with
  | decode memory packet => exact (tracked.decode memory packet).1
  | reset =>
    refine ⟨?_, tracked.sound, ?_⟩
    · intro t present
      cases present
    · intro t present
      cases present

theorem start_tracked (limits : Limits) : Tracked (start limits) .blank := by
  refine ⟨nofun, ?_, nofun⟩
  refine ⟨?_, nofun⟩
  intro a other
  cases a with
  | current => contradiction
  | last | golden | altref => decide

theorem Tracked.calls {x : Session × Ledger} (tracked : Tracked x.1 x.2) (calls : List Call) :
    Tracked (calls.foldl track x).1 (calls.foldl track x).2 := by
  induction calls generalizing x with
  | nil => exact tracked
  | cons c calls ih => exact ih (tracked.call c)

end Session

namespace Ledger

theorem enter_keeps {l : Ledger} {n : Nat} (s : Session) (preamble : Preamble)
    (member : n ∈ l.damaged) : n ∈ (l.enter s preamble).damaged := by
  unfold enter
  split
  · split
    · exact member
    · exact member
  · exact member

theorem behind_keeps {l : Ledger} {n : Nat} (packet : ByteArray) (preamble : Preamble) (t : Stream)
    (carried : Carried) (member : n ∈ l.damaged) :
    n ∈ (l.behind packet preamble t carried).damaged := by
  unfold behind
  split
  · exact member
  · unfold frame
    split
    · exact member
    · exact (mem_commit _ _ _ _ n).mpr (.inr member)

theorem packet_keeps {l : Ledger} {n : Nat} (s : Session) (memory : Memory) (data : ByteArray)
    (member : n ∈ l.damaged) : n ∈ (l.packet s memory data).damaged := by
  unfold packet
  split
  · exact member
  · split
    · exact member
    · exact behind_keeps _ _ _ _ (enter_keeps s _ member)

theorem call_keeps {l : Ledger} {n : Nat} (s : Session) (c : Call) (member : n ∈ l.damaged) :
    n ∈ (l.call s c).damaged := by
  cases c with
  | reset => exact member
  | decode memory data =>
    have kept := packet_keeps s memory data member
    unfold call decode answer
    dsimp only
    split
    · split
      · exact kept
      · exact List.mem_cons_of_mem _ kept
    · exact kept

end Ledger

namespace Session

theorem calls_keep {x : Session × Ledger} {n : Nat} (calls : List Call)
    (member : n ∈ x.2.damaged) : n ∈ (calls.foldl track x).2.damaged := by
  induction calls generalizing x with
  | nil => exact member
  | cons c calls ih => exact ih (Ledger.call_keeps x.1 c member)

/-- After any calls the marks of the session are those of damaged pictures. However they go on, a
    picture that is damaged stays damaged, and keeps its mark in every reference that holds it. -/
theorem damage_propagates (limits : Limits) (calls more : List Call) :
    let x := calls.foldl track (start limits, .blank)
    let y := more.foldl track x
    Marked x.1 x.2 ∧ ∀ n, n ∈ x.2.damaged → n ∈ y.2.damaged ∧
      ∀ t, y.1.stream = some t → ∀ a, a ≠ .current → y.2.number a = n →
        (t.pool.picture a).damaged = true := by
  intro x y
  have tracked : Tracked x.1 x.2 := (start_tracked limits).calls calls
  have further : Tracked y.1 y.2 := tracked.calls more
  refine ⟨tracked.marked, fun n member => ?_⟩
  have kept : n ∈ y.2.damaged := calls_keep more member
  refine ⟨kept, fun t present a other same => ?_⟩
  rw [further.marked.references t present a other, same]
  exact kept

end Session

end Vp8
