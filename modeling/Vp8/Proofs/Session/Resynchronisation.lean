import Vp8.Proofs.Frame.Header
import Vp8.Proofs.Session.Equivalence

/-!
Keyframes as fresh starts. Two sessions answer a keyframe in the same way, whatever came before it;
and after one that is accepted, if their tables are equal, they answer all further calls in the same
way.
-/
namespace Vp8

theorem Headers.read_keyframe {packet : ByteArray} {preamble : Preamble} {carried : Carried}
    {h : Headers} (keyframe : preamble.tag.keyframe = true)
    (done : read packet preamble carried = .ok h) :
    h.tag.keyframe = true ∧ h.header.references = .all := by
  obtain ⟨header, partitions, found, _, rfl⟩ := read_ok.mp done
  refine ⟨keyframe, ?_⟩
  unfold compressed at found
  rw [keyframe] at found
  exact ((FrameHeader.read_keyframe carried).read _).1 header found

namespace Stream

inductive Sized (size : KeyframeSize) : Stream → Prop where
  | mk {pool : PicturePool (macroblocksFor size.height) (macroblocksFor size.width)}
    {grid : Grid (macroblocksFor size.height) (macroblocksFor size.width)}
    (balanced : pool.Balanced) :
    Sized size ⟨size.width, size.height, size.horizontalScale, size.verticalScale, pool, grid⟩

variable {size : KeyframeSize} {t u : Stream}

theorem configure_sized {limits : Limits} {old : Option Stream}
    (fits : ¬ (limits.maxWidth < size.width ∨ limits.maxHeight < size.height))
    (balanced : ∀ t, old = some t → t.pool.Balanced) :
    ∃ t, configure limits .ample old size = .ok t ∧ Sized size t := by
  unfold configure
  rw [if_neg fits]
  cases old with
  | none => exact ⟨_, allocate_ample size, .mk (blank_balanced size)⟩
  | some t =>
    dsimp only
    split
    · rename_i same
      refine ⟨_, rfl, ?_⟩
      have counted := balanced t rfl
      obtain ⟨width, height, horizontalScale, verticalScale, pool, grid⟩ := t
      obtain ⟨width', height', _, _⟩ := size
      obtain ⟨rfl, rfl⟩ := same
      exact .mk counted
    · exact ⟨_, allocate_ample size, .mk (blank_balanced size)⟩

theorem configure_outcome (limits : Limits) (size : KeyframeSize) {old old' : Option Stream}
    (balanced : ∀ t, old = some t → t.pool.Balanced)
    (balanced' : ∀ t, old' = some t → t.pool.Balanced) :
    Outcome (fun t u => Sized size t ∧ Sized size u) (configure limits .ample old size)
      (configure limits .ample old' size) := by
  by_cases large : limits.maxWidth < size.width ∨ limits.maxHeight < size.height
  · unfold configure
    rw [if_pos large, if_pos large]
    exact .error _
  · obtain ⟨t, left, sized⟩ := configure_sized large balanced
    obtain ⟨u, right, sized'⟩ := configure_sized large balanced'
    rw [left, right]
    exact .ok ⟨sized, sized'⟩

/-- A keyframe comes to the same on all streams of its size, and makes them alike if it is
    accepted. -/
theorem Sized.decode_keyframe (left : Sized size t) (right : Sized size u)
    (visible : 0 < size.width ∧ 0 < size.height) {h : Headers} (keyframe : h.tag.keyframe = true)
    (all : h.header.references = .all) :
    SameStep h.tag (t.decode h) (u.decode h) ∧
      ∀ overrun, (t.decode h).2 = .ok overrun → Alike (t.decode h).1 (u.decode h).1 := by
  obtain @⟨pool, grid, balanced⟩ := left
  obtain @⟨pool', grid', balanced'⟩ := right
  obtain ⟨r, acquired, target⟩ := PicturePool.acquire_balanced balanced
  obtain ⟨s, acquired', target'⟩ := PicturePool.acquire_balanced balanced'
  obtain ⟨modes, current⟩ :=
    Grid.readModes_keyframe (show h.modeContext.keyframe = true from keyframe) grid grid' h.reader
  rcases decode_outcome h acquired acquired' modes ⟨rfl, rfl, .inr current⟩ with
    ⟨e, g, first, second⟩ | ⟨d, e, overrun, same, first, second⟩
  · rw [first, second]
    exact ⟨⟨rfl, nofun⟩, nofun⟩
  · rw [first, second]
    refine ⟨conclude_same h visible same overrun, ?_⟩
    intro _ accepted
    have kept : ¬ (overrun && h.tag.keyframe) = true := by
      intro lost
      rw [conclude_lost lost] at accepted
      contradiction
    have finished := finish_alike h same
      ⟨macroblocksFor_pos visible.2, macroblocksFor_pos visible.1⟩ overrun
    have grids := same.grid
    rw [conclude_kept kept, conclude_kept kept, finished, grids, all]
    apply Alike.mk visible
    apply PicturePool.Alike.commit
    · apply PicturePool.Matching.commit_all
      rw [PicturePool.picture_current, PicturePool.picture_current]
    · exact PicturePool.setPicture_counted target.counted _ _
    · exact PicturePool.setPicture_counted target'.counted _ _

end Stream

namespace Session

variable {s t : Session} {packet : ByteArray}

/-- The same answer. If it is a frame, equal tables are enough for sessions that are alike. -/
def Resynchronised (x y : Session × Except DecodeError Frame) : Prop :=
  x.2 = y.2 ∧ ∀ frame, x.2 = .ok frame → x.1.carried.entropy = y.1.carried.entropy →
    Alike x.1 y.1

theorem settle_entropy {before before' : Carried} {h : Headers}
    (tables : (settle before h).entropy = (settle before' h).entropy) :
    settle before h = settle before' h := by
  unfold settle at tables ⊢
  split
  · rfl
  · rename_i passing
    rw [if_neg passing, if_neg passing] at tables
    dsimp only at tables
    rw [tables]

theorem decodeFrom_keyframe (limits : s.limits = t.limits) (packet : ByteArray)
    {preamble : Preamble} (keyframe : preamble.tag.keyframe = true) {size : KeyframeSize}
    (visible : 0 < size.width ∧ 0 < size.height) {u v : Stream} (left : Stream.Sized size u)
    (right : Stream.Sized size v) (carried : Carried) :
    Resynchronised (s.decodeFrom packet preamble u carried)
      (t.decodeFrom packet preamble v carried) := by
  unfold decodeFrom
  cases read : Headers.read packet preamble carried with
  | error e => exact ⟨rfl, nofun⟩
  | ok h =>
    obtain ⟨tagged, all⟩ := Headers.read_keyframe keyframe read
    obtain ⟨⟨answers, frames⟩, next⟩ := left.decode_keyframe right visible tagged all
    dsimp only
    generalize u.decode h = x at answers frames next ⊢
    generalize v.decode h = y at answers frames next ⊢
    obtain ⟨u', answer⟩ := x
    obtain ⟨v', _⟩ := y
    cases answers
    match answer with
    | .error e => exact ⟨rfl, nofun⟩
    | .ok true => exact ⟨rfl, nofun⟩
    | .ok false =>
      refine ⟨congrArg Except.ok (frames false rfl), fun _ _ tables => ?_⟩
      constructor
      · exact limits
      · exact .some (next false rfl)
      · exact settle_entropy tables
      · dsimp only
        rw [tagged, Bool.not_true, Bool.and_false, Bool.and_false]

theorem decodePacket_keyframe (balanced : s.Balanced) (balanced' : t.Balanced)
    (limits : s.limits = t.limits) (keyframe : isKeyframe packet = true) :
    Resynchronised (s.decodePacket .ample packet) (t.decodePacket .ample packet) := by
  unfold decodePacket
  cases parsed : Preamble.parse packet with
  | error e => exact ⟨rfl, nofun⟩
  | ok preamble =>
    obtain ⟨tagged, sized⟩ := Preamble.parse_keyframe parsed
    rw [keyframe] at tagged sized
    obtain ⟨size, present⟩ := Option.isSome_iff_exists.mp sized
    dsimp only
    unfold enter
    rw [present, limits]
    have configured := Stream.configure_outcome t.limits size balanced balanced'
    dsimp only
    generalize Stream.configure t.limits .ample s.stream size = x at configured ⊢
    generalize Stream.configure t.limits .ample t.stream size = y at configured ⊢
    cases configured with
    | error e => exact ⟨rfl, nofun⟩
    | ok streams =>
      exact decodeFrom_keyframe limits packet tagged (Preamble.parse_visible parsed size present)
        streams.1 streams.2 .default

theorem decode_keyframe (balanced : s.Balanced) (balanced' : t.Balanced)
    (limits : s.limits = t.limits) (keyframe : isKeyframe packet = true) :
    Resynchronised (s.decode .ample packet) (t.decode .ample packet) := by
  obtain ⟨answers, next⟩ := decodePacket_keyframe balanced balanced' limits keyframe
  unfold decode
  generalize s.decodePacket .ample packet = x at answers next ⊢
  generalize t.decodePacket .ample packet = y at answers next ⊢
  obtain ⟨s', answer⟩ := x
  obtain ⟨t', _⟩ := y
  cases answers
  cases answer with
  | ok frame => exact ⟨rfl, next⟩
  | error e =>
    rw [keyframe]
    exact ⟨rfl, nofun⟩

/-- Two sessions with the same limits give the same answer to a keyframe. If it is a frame, and the
    tables are equal after it, nothing else is left of what was before it: all further calls have
    the same answers too. -/
theorem keyframe_resynchronises (left : Reachable s) (right : Reachable t)
    (limits : s.limits = t.limits) (keyframe : isKeyframe packet = true) :
    (s.decode .ample packet).2 = (t.decode .ample packet).2 ∧
      ∀ frame, (s.decode .ample packet).2 = .ok frame →
        (s.decode .ample packet).1.carried.entropy = (t.decode .ample packet).1.carried.entropy →
        ∀ calls,
          (s.decode .ample packet).1.answers calls = (t.decode .ample packet).1.answers calls := by
  obtain ⟨answers, next⟩ := decode_keyframe left.balanced right.balanced limits keyframe
  refine ⟨answers, fun frame accepted tables calls => ?_⟩
  exact (next frame accepted tables).answers calls

theorem changed_limits : changed.limits = (start .default).limits := by decide +kernel

theorem changing_again : (changed.decode .ample changingKeyframe).2.toBool = true := by
  decide +kernel

theorem changing_again_entropy :
    (changed.decode .ample changingKeyframe).1.carried.entropy =
      ((start .default).decode .ample changingKeyframe).1.carried.entropy := by
  decide +kernel

/-- To send the same keyframe again is to send it for the first time. -/
theorem keyframe_resynchronises_again :
    ∃ frame, (changed.decode .ample changingKeyframe).2 = .ok frame ∧
      ((start .default).decode .ample changingKeyframe).2 = .ok frame ∧
      ∀ calls, (changed.decode .ample changingKeyframe).1.answers calls =
        ((start .default).decode .ample changingKeyframe).1.answers calls := by
  obtain ⟨frame, accepted⟩ := ok_of_toBool changing_again
  obtain ⟨answers, next⟩ := keyframe_resynchronises changed_reachable (.start .default)
    changed_limits (show isKeyframe changingKeyframe = true by decide +kernel)
  refine ⟨frame, accepted, ?_, ?_⟩
  · rw [← answers]
    exact accepted
  · exact next frame accepted changing_again_entropy

end Session

end Vp8
