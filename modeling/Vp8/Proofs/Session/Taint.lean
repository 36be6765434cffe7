import Vp8.Proofs.Session.Spread

/-!
What becomes of the mark that a rejected frame leaves behind. It is put on the picture that last
holds, and so on every reference that shares this picture. From there it spreads to the frames that
are predicted from such a reference, and to nothing else.
-/
namespace Vp8

namespace Session

variable {s t : Session} {memory : Memory} {packet : ByteArray} {x : References Bool}

/-- Two sessions that are equal up to their marks, of which the first has some more. -/
structure Tainted (s t : Session) (x : References Bool) : Prop where
  left : s.Balanced
  right : t.Balanced
  same : s.unmarked = t.unmarked
  marks : s.marks = t.marks.or x

theorem Tainted.spread (tainted : Tainted s t x) (memory : Memory) (packet : ByteArray) :
    s.spread memory packet true s.marks =
      ((t.spread memory packet true t.marks).1.or (t.spread memory packet false x).1,
        (t.spread memory packet true t.marks).2 || (t.spread memory packet false x).2) := by
  rw [tainted.marks, ← spread_unmarked, tainted.same, spread_unmarked, spread_or]

def taintFrame (tainted : Bool) (f : Frame) : Frame :=
  { f with picture := { f.picture with damaged := f.picture.damaged || tainted } }

theorem eq_taintFrame {f g : Frame} {tainted : Bool} (same : f.unmarked = g.unmarked)
    (damaged : f.damaged = (g.damaged || tainted)) : f = taintFrame tainted g := by
  have remarked (f : Frame) :
      f = { f.unmarked with picture := { f.unmarked.picture with damaged := f.damaged } } := rfl
  rw [remarked f, same, damaged]
  rfl

def taintAnswer (tainted : Bool) (answer : Except DecodeError Frame) : Except DecodeError Frame :=
  answer.map (taintFrame tainted)

theorem decodePacket_congr (same : s.unmarked = t.unmarked) (memory : Memory) (packet : ByteArray) :
    Forgets (s.decodePacket memory packet) (t.decodePacket memory packet) := by
  obtain ⟨answers, sessions⟩ := s.decodePacket_unmarked memory packet
  obtain ⟨answers', sessions'⟩ := t.decodePacket_unmarked memory packet
  rw [same] at answers sessions
  exact ⟨answers.symm.trans answers', sessions.symm.trans sessions'⟩

theorem Tainted.decodePacket (tainted : Tainted s t x) (memory : Memory) (packet : ByteArray) :
    (s.decodePacket memory packet).2 =
        taintAnswer (t.spread memory packet false x).2 (t.decodePacket memory packet).2 ∧
      Tainted (s.decodePacket memory packet).1 (t.decodePacket memory packet).1
        (t.spread memory packet false x).1 := by
  obtain ⟨answers, sessions⟩ := decodePacket_congr tainted.same memory packet
  obtain ⟨marks, frames⟩ := decodePacket_marks tainted.left memory packet
  obtain ⟨marks', frames'⟩ := decodePacket_marks tainted.right memory packet
  -- one law holds for both sessions: but for its argument it does not see marks
  rw [tainted.spread] at marks frames
  refine ⟨?_, ?_, ?_, sessions, ?_⟩
  · generalize (s.decodePacket memory packet).2 = answer at answers frames ⊢
    generalize (t.decodePacket memory packet).2 = answer' at answers frames' ⊢
    cases answer with
    | error e =>
      cases answer' with
      | error e' => exact answers
      | ok frame' => contradiction
    | ok frame =>
      cases answer' with
      | error e' => contradiction
      | ok frame' =>
        refine congrArg Except.ok (eq_taintFrame (Except.ok.inj answers) ?_)
        rw [frames frame rfl, frames' frame' rfl]
  · exact decodePacket_keeps Stream.balanced_invariant memory packet tainted.left
  · exact decodePacket_keeps Stream.balanced_invariant memory packet tainted.right
  · rw [marks, marks']

theorem sharing_congr (same : s.unmarked = t.unmarked) : s.sharing = t.sharing := by
  rw [← sharing_unmarked, same, sharing_unmarked]

theorem Tainted.recover (tainted : Tainted s t x) (keyframe : Bool) (e : DecodeError) :
    Tainted (s.recover keyframe e).1 (t.recover keyframe e).1 x where
  left := recover_keeps Stream.balanced_invariant keyframe e tainted.left
  right := recover_keeps Stream.balanced_invariant keyframe e tainted.right
  same := by rw [unmarked_recover, unmarked_recover, tainted.same]
  marks := by
    rw [recover_marks, recover_marks, sharing_congr tainted.same, tainted.marks]
    split
    · exact References.or_right_comm ..
    · rfl

theorem Tainted.decode (tainted : Tainted s t x) (memory : Memory) (packet : ByteArray) :
    (s.decode memory packet).2 =
        taintAnswer (t.spread memory packet false x).2 (t.decode memory packet).2 ∧
      Tainted (s.decode memory packet).1 (t.decode memory packet).1
        (t.spread memory packet false x).1 := by
  obtain ⟨answers, next⟩ := tainted.decodePacket memory packet
  unfold Session.decode
  generalize s.decodePacket memory packet = a at answers next ⊢
  generalize t.decodePacket memory packet = b at answers next ⊢
  obtain ⟨u, _⟩ := a
  obtain ⟨v, answer⟩ := b
  cases answers
  cases answer with
  | ok frame => exact ⟨rfl, next⟩
  | error e =>
    refine ⟨?_, next.recover (isKeyframe packet) e⟩
    exact congrArg Except.error ((u.recover_error _ e).trans (v.recover_error _ e).symm)

/-- What a call makes of taints: which references have them afterwards, and whether its frame
    does. -/
def taint (s : Session) (x : References Bool) : Call → References Bool × Bool
  | .decode memory packet => s.spread memory packet false x
  | .reset => (.clean, false)

/-- Which of the following frames are tainted, if these references are. -/
def taints (s : Session) (x : References Bool) : List Call → List Bool
  | [] => []
  | c :: calls => (s.taint x c).2 :: (s.call c).1.taints (s.taint x c).1 calls

theorem Tainted.call (tainted : Tainted s t x) (c : Call) :
    (s.call c).2 = (t.call c).2.map (taintAnswer (t.taint x c).2) ∧
      Tainted (s.call c).1 (t.call c).1 (t.taint x c).1 := by
  cases c with
  | decode memory packet =>
    obtain ⟨answers, next⟩ := tainted.decode memory packet
    exact ⟨congrArg some answers, next⟩
  | reset =>
    refine ⟨rfl, nofun, nofun, ?_, rfl⟩
    have limits := congrArg Session.limits tainted.same
    exact congrArg start limits

theorem Tainted.answers (tainted : Tainted s t x) (calls : List Call) :
    s.answers calls =
      List.zipWith (fun tainted => Option.map (taintAnswer tainted)) (t.taints x calls)
        (t.answers calls) := by
  induction calls generalizing s t x with
  | nil => rfl
  | cons c calls ih =>
    obtain ⟨answer, next⟩ := tainted.call c
    unfold Session.answers taints
    rw [List.zipWith_cons_cons, answer, ih next]

/-- A frame that is rejected for its damage marks the picture that last holds, for every reference
    that shares it: golden and altref keep their marks as they were exactly if they do not share it
    or it was marked before. All later frames are those that there would have been without it. Those
    of them are marked that would have been marked, and those that are tainted, because some
    macroblock is predicted from a reference that shared this picture or has come to hold a tainted
    frame since. -/
theorem rejected_frame_marks_picture_of_last {d : Damage} (reachable : s.Reachable)
    (inter : isKeyframe packet = false)
    (rejected : s.commitFrame memory packet = .error (.corruptFrame d)) :
    (s.decode memory packet).2 = .error (.corruptFrame d) ∧
      (s.decode memory packet).1.marks = s.marks.or s.sharing ∧
      (∀ a, (s.decode memory packet).1.marks.holding false a = s.marks.holding false a ↔
        (s.sharing.holding false a = true → s.marks.holding false a = true)) ∧
      ∀ calls, (s.decode memory packet).1.answers calls =
        List.zipWith (fun tainted => Option.map (taintAnswer tainted)) (s.taints s.sharing calls)
          (s.answers calls) := by
  have decoded := decode_of_refused inter (decodePacket_rejected reachable.balanced inter rejected)
  have marks : (s.decode memory packet).1.marks = s.marks.or s.sharing := by
    rw [decoded]
    exact s.recover_marks false (.corruptFrame d)
  refine ⟨congrArg Prod.snd decoded, marks, ?_, ?_⟩
  · intro a
    have joined := s.marks.holding_or s.sharing false false a
    rw [Bool.or_false] at joined
    rw [marks, joined]
    cases s.marks.holding false a <;> cases s.sharing.holding false a <;> decide
  · intro calls
    have tainted : Tainted (s.decode memory packet).1 s s.sharing := by
      refine ⟨(reachable.decode memory packet).balanced, reachable.balanced, ?_, marks⟩
      rw [decoded]
      exact s.unmarked_recover false _
    exact tainted.answers calls

theorem bad_copy_rejected :
    changed.commitFrame .ample badCopyFrame = .error (.corruptFrame .referenceCopy) := by
  decide +kernel

theorem bad_copy_inter : isKeyframe badCopyFrame = false := by decide +kernel

theorem changed_marks : changed.marks = .clean ∧ changed.sharing = ⟨true, true, true⟩ := by
  decide +kernel

theorem rejected_copy_marks_references :
    (changed.decode .ample badCopyFrame).1.marks = ⟨true, true, true⟩ ∧
      ∀ calls, (changed.decode .ample badCopyFrame).1.answers calls =
        List.zipWith (fun tainted => Option.map (taintAnswer tainted))
          (changed.taints ⟨true, true, true⟩ calls) (changed.answers calls) := by
  obtain ⟨_, marks, _, later⟩ :=
    rejected_frame_marks_picture_of_last changed_reachable bad_copy_inter bad_copy_rejected
  obtain ⟨clean, shared⟩ := changed_marks
  rw [clean, shared] at marks
  rw [shared] at later
  exact ⟨marks, later⟩

/-- The rejected frame has left its mark on golden too, and a frame that is predicted from golden
    alone has it now. -/
theorem rejected_copy_marks_golden :
    changed.Reachable ∧ isKeyframe badCopyFrame = false ∧
      changed.commitFrame .ample badCopyFrame = .error (.corruptFrame .referenceCopy) ∧
      changed.marks.golden = false ∧ (changed.decode .ample badCopyFrame).1.marks.golden = true ∧
      (changed.taint ⟨true, false, true⟩ (.decode .ample goldenFrame)).2 = false ∧
      (changed.decode .ample goldenFrame).2.map Frame.damaged = .ok false ∧
      ((changed.decode .ample badCopyFrame).1.decode .ample goldenFrame).2.map Frame.damaged =
        .ok true := by
  refine ⟨changed_reachable, bad_copy_inter, bad_copy_rejected, ?_⟩
  decide +kernel

end Session

end Vp8
