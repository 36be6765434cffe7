import Vp8.Proofs.Frame.Preamble
import Vp8.Proofs.Image.Pool
import Vp8.Proofs.Session.Steps

/-!
The sessions that calls lead to. What every step of a stream keeps holds of the stream of each of
them: its pool counts its references exactly, so that there is a picture free for every frame, and
its pictures have a size.
-/
namespace Vp8

inductive Call where
  | decode (memory : Memory) (packet : ByteArray)
  | reset

namespace Session

def call (s : Session) : Call → Session × Option (Except DecodeError Frame)
  | .decode memory packet => ((s.decode memory packet).1, some (s.decode memory packet).2)
  | .reset => (s.reset, none)

def answers (s : Session) : List Call → List (Option (Except DecodeError Frame))
  | [] => []
  | c :: calls => (s.call c).2 :: (s.call c).1.answers calls

inductive Reachable : Session → Prop where
  | start (limits : Limits) : Reachable (start limits)
  | call {s : Session} (reachable : Reachable s) (c : Call) : Reachable (s.call c).1

theorem Reachable.decode {s : Session} (reachable : Reachable s) (memory : Memory)
    (packet : ByteArray) : Reachable (s.decode memory packet).1 :=
  reachable.call (.decode memory packet)

theorem changed_reachable : Reachable changed :=
  Reachable.decode (.start .default) .ample changingKeyframe

end Session

namespace Stream

/-- What a stream starts with, and every step of it keeps. -/
structure Invariant (P : Stream → Prop) : Prop where
  blank (size : KeyframeSize) (visible : 0 < size.width ∧ 0 < size.height) : P (blank size)
  rescale {t : Stream} (holds : P t) (horizontalScale verticalScale : Nat) :
    P { t with horizontalScale, verticalScale }
  decode {t : Stream} (holds : P t) (h : Headers) : P (t.decode h).1
  markLastDamaged {t : Stream} (holds : P t) : P t.markLastDamaged

theorem blank_balanced (size : KeyframeSize) : (blank size).pool.Balanced :=
  PicturePool.blank_balanced

theorem conclude_balanced {t : Stream} (h : Headers)
    {pool : PicturePool (macroblocksFor t.height) (macroblocksFor t.width)}
    (done : Reconstruction (macroblocksFor t.height) (macroblocksFor t.width)) (overrun : Bool)
    (counted : pool.Counted) : (t.conclude h pool done overrun).1.pool.Balanced := by
  by_cases lost : (overrun && h.tag.keyframe) = true
  · rw [conclude_lost lost]
    exact PicturePool.release_balanced (PicturePool.setPicture_counted counted _ _)
  · rw [conclude_kept lost]
    exact PicturePool.commit_balanced (PicturePool.setPicture_counted counted _ _) _

theorem decode_balanced {t : Stream} (h : Headers) (balanced : t.pool.Balanced) :
    (t.decode h).1.pool.Balanced := by
  obtain ⟨pool, acquired, has⟩ := PicturePool.acquire_balanced balanced
  rw [decode_eq, acquired]
  dsimp only
  split
  · exact PicturePool.release_balanced has.counted
  · exact conclude_balanced h _ _ has.counted

theorem balanced_invariant : Invariant fun t => t.pool.Balanced where
  blank size _ := blank_balanced size
  rescale balanced _ _ := balanced
  decode balanced h := decode_balanced h balanced
  markLastDamaged balanced := PicturePool.markDamaged_balanced balanced _

def Visible (t : Stream) : Prop := 0 < t.width ∧ 0 < t.height

theorem decode_visible {t : Stream} (h : Headers) (visible : t.Visible) :
    (t.decode h).1.Visible := by
  rw [decode_eq]
  split
  · exact visible
  · split
    · exact visible
    · unfold conclude
      split <;> exact visible

theorem visible_invariant : Invariant Visible where
  blank _ visible := visible
  rescale visible _ _ := visible
  decode visible h := decode_visible h visible
  markLastDamaged visible := visible

end Stream

namespace Session

def Keeps (P : Stream → Prop) (s : Session) : Prop := ∀ t, s.stream = some t → P t

def Balanced (s : Session) : Prop := ∀ t, s.stream = some t → t.pool.Balanced

variable {P : Stream → Prop} {s : Session} {memory : Memory}

/-- A packet that is no keyframe goes on with the stream of the session. -/
theorem enter_inter {packet : ByteArray} {preamble : Preamble} {t : Stream} {carried : Carried}
    (parsed : Preamble.parse packet = .ok preamble) (inter : isKeyframe packet = false)
    (entered : s.enter memory preamble = .ok (t, carried)) : s.stream = some t := by
  obtain ⟨_, _, stream, _⟩ | ⟨size, sized, _⟩ := enter_ok entered
  · exact stream
  · rw [Preamble.parse_inter parsed inter] at sized
    contradiction

theorem enter_inter_error {packet : ByteArray} {preamble : Preamble} {e : DecodeError}
    (parsed : Preamble.parse packet = .ok preamble) (inter : isKeyframe packet = false)
    (failed : s.enter memory preamble = .error e) : e = .missingKeyframe := by
  obtain ⟨_, missing⟩ | ⟨size, sized, _⟩ := enter_error failed
  · exact missing
  · rw [Preamble.parse_inter parsed inter] at sized
    contradiction

theorem enter_keeps (invariant : Stream.Invariant P) {packet : ByteArray} {preamble : Preamble}
    {t : Stream} {carried : Carried} (keeps : s.Keeps P)
    (parsed : Preamble.parse packet = .ok preamble)
    (entered : s.enter memory preamble = .ok (t, carried)) : P t := by
  obtain ⟨_, _, stream, _⟩ | ⟨size, sized, configured, _⟩ := enter_ok entered
  · exact keeps t stream
  · obtain ⟨u, stream, _, rfl⟩ | ⟨_, rfl⟩ := Stream.configure_ok configured
    · exact invariant.rescale (keeps u stream) _ _
    · exact invariant.blank size (Preamble.parse_visible parsed size sized)

theorem decodeFrom_keeps (invariant : Stream.Invariant P) {packet : ByteArray}
    {preamble : Preamble} {t : Stream} {carried : Carried} (holds : P t) :
    (s.decodeFrom packet preamble t carried).1.Keeps P := by
  have only (u : Stream) (next : P u) {v : Stream} (same : some u = some v) : P v := by
    cases same
    exact next
  unfold decodeFrom
  split
  · intro u same
    exact only t holds same
  · rename_i h _
    have next := invariant.decode holds h
    split
    all_goals
      rename_i decoded
      rw [decoded] at next
      intro u same
      exact only _ next same

theorem giveUp_keeps (e : DecodeError) (keeps : s.Keeps P) : (s.giveUp e).Keeps P := by
  cases e with
  | allocationFailed bytes => exact nofun
  | _ => exact keeps

theorem decodePacket_keeps (invariant : Stream.Invariant P) (memory : Memory)
    (packet : ByteArray) (keeps : s.Keeps P) : (s.decodePacket memory packet).1.Keeps P := by
  unfold decodePacket
  split
  · exact keeps
  · rename_i parsed
    split
    · exact giveUp_keeps _ keeps
    · rename_i entered
      exact decodeFrom_keeps invariant (enter_keeps invariant keeps parsed entered)

theorem recover_keeps (invariant : Stream.Invariant P) (keyframe : Bool) (e : DecodeError)
    (keeps : s.Keeps P) : (s.recover keyframe e).1.Keeps P := by
  unfold recover
  split
  · exact keeps
  · split
    · intro t marked
      obtain ⟨u, present, rfl⟩ := Option.map_eq_some_iff.mp marked
      exact invariant.markLastDamaged (keeps u present)
    · exact keeps

theorem decode_keeps (invariant : Stream.Invariant P) (memory : Memory) (packet : ByteArray)
    (keeps : s.Keeps P) : (s.decode memory packet).1.Keeps P := by
  have next := decodePacket_keeps invariant memory packet keeps
  unfold decode
  split
  · rename_i decoded
    rw [decoded] at next
    exact next
  · rename_i decoded
    rw [decoded] at next
    exact recover_keeps invariant _ _ next

theorem Reachable.keeps (invariant : Stream.Invariant P) (reachable : Reachable s) :
    s.Keeps P := by
  induction reachable with
  | start limits =>
    intro t same
    cases same
  | @call s reachable c ih =>
    cases c with
    | decode memory packet => exact decode_keeps invariant memory packet ih
    | reset =>
      intro t same
      cases same

theorem Reachable.balanced (reachable : Reachable s) : s.Balanced :=
  reachable.keeps Stream.balanced_invariant

theorem Reachable.visible (reachable : Reachable s) : s.Keeps Stream.Visible :=
  reachable.keeps Stream.visible_invariant

end Session

end Vp8
