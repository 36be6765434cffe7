import Vp8.Proofs.Session.Damage
import Vp8.Proofs.Session.Rejection

/-!
How marks of damage spread. The references of a session show them as a table of three, and one law
says what a packet makes of such a table: it gives the marks that a session comes to have, and side
by side with them those that are due to some of its marks alone.
-/
namespace Vp8

namespace References

def clean : References Bool := ⟨false, false, false⟩

def or (x y : References Bool) : References Bool :=
  ⟨x.last || y.last, x.golden || y.golden, x.altref || y.altref⟩

theorem or_right_comm (x y z : References Bool) : (x.or y).or z = (x.or z).or y := by
  unfold or
  simp only [Bool.or_right_comm]

def giveUp (x : References Bool) : DecodeError → References Bool
  | .allocationFailed _ => clean
  | _ => x

theorem giveUp_or (x y : References Bool) (e : DecodeError) :
    (x.or y).giveUp e = (x.giveUp e).or (y.giveUp e) := by
  cases e <;> rfl

theorem holding_or (x y : References Bool) (new new' : Bool) (a : Reference) :
    (x.or y).holding (new || new') a = (x.holding new a || y.holding new' a) := by
  cases a <;> rfl

theorem or_update (x y : References Bool) (u : ReferenceUpdate) (new new' : Bool) :
    (x.or y).update u (new || new') = (x.update u new).or (y.update u new') := by
  have role (a : Reference) : ((x.or y).update u (new || new')).holding (new || new') a =
      ((x.update u new).or (y.update u new')).holding (new || new') a := by
    rw [holding_update, holding_or, holding_or, holding_update, holding_update]
  exact (References.mk.injEq ..).mpr ⟨role .last, role .golden, role .altref⟩

end References

namespace PicturePool

variable {rows cols : Nat} {p r : PicturePool rows cols}

def marks (p : PicturePool rows cols) : References Bool := p.held.map Picture.damaged

/-- Which references hold the picture that last holds. -/
def sharing (p : PicturePool rows cols) : References Bool :=
  p.places.map fun k => decide (p.last = k)

theorem marks_holding (p : PicturePool rows cols) (a : Reference) :
    p.marks.holding false a = true ↔ a ≠ .current ∧ (p.picture a).damaged = true := by
  cases a with
  | current => exact ⟨nofun, fun ⟨other, _⟩ => absurd rfl other⟩
  | last | golden | altref => exact ⟨fun marked => ⟨nofun, marked⟩, And.right⟩

theorem marks_markLast (p : PicturePool rows cols) :
    (p.markDamaged .last).marks = p.marks.or p.sharing := by
  have role (a : Reference) : ((p.markDamaged .last).picture a).damaged =
      ((p.picture a).damaged || decide (p.place .last = p.place a)) := by
    unfold markDamaged
    rw [picture_setPicture]
    by_cases same : p.place .last = p.place a
    · rw [if_pos same, decide_eq_true same, Bool.or_true]
    · rw [if_neg same, decide_eq_false same, Bool.or_false]
  exact (References.mk.injEq ..).mpr ⟨role .last, role .golden, role .altref⟩

theorem Acquired.marks_abandon (acquired : p.Acquired r) (x : Picture rows cols) :
    (r.setPicture .current x).abandon.marks = p.marks := by
  unfold marks
  rw [(acquired.setPicture x).written.abandoned]

theorem Acquired.marks_commit (acquired : p.Acquired r) (x : Picture rows cols)
    (u : ReferenceUpdate) :
    ((r.setPicture .current x).commit u).marks = p.marks.update u x.damaged := by
  unfold marks
  rw [(acquired.setPicture x).written.committed u, References.map_update, picture_current]

end PicturePool

namespace Stream

variable {t : Stream} {h : Headers}

def reaches (t : Stream) (h : Headers) (x : References Bool) : Bool :=
  (t.modes h).1.cells.any fun row => row.any fun m => x.holding false m.reference

theorem reaches_or (t : Stream) (h : Headers) (x y : References Bool) :
    t.reaches h (x.or y) = (t.reaches h x || t.reaches h y) := by
  have either (m : Macroblock) : (x.or y).holding false m.reference =
      (x.holding false m.reference || y.holding false m.reference) :=
    x.holding_or y false false m.reference
  rw [Bool.eq_iff_iff, Bool.or_eq_true]
  unfold reaches
  simp only [Grid.any_cells, either, Bool.or_eq_true, exists_or]

/-- Where a frame spreads the marks of these references, and whether it has one itself. Its own lack
    of data counts only if it is asked for. -/
def spread (t : Stream) (h : Headers) (own : Bool) (x : References Bool) : References Bool × Bool :=
  match (t.decode h).2 with
  | .error _ => (x, false)
  | .ok overrun =>
    let new := own && overrun || t.reaches h x
    (x.update h.header.references new, new)

theorem spread_unmarked (t : Stream) (h : Headers) (own : Bool) (x : References Bool) :
    t.unmarked.spread h own x = t.spread h own x := by
  have reached : t.unmarked.reaches h x = t.reaches h x := rfl
  unfold spread
  rw [(t.decode_unmarked h).1, reached]

/-- The marks of two causes spread side by side. -/
theorem spread_or (t : Stream) (h : Headers) (x y : References Bool) :
    t.spread h true (x.or y) =
      ((t.spread h true x).1.or (t.spread h false y).1,
        (t.spread h true x).2 || (t.spread h false y).2) := by
  unfold spread
  cases (t.decode h).2 with
  | error e => rfl
  | ok overrun =>
    dsimp only
    rw [reaches_or, Bool.false_and, Bool.false_or, ← Bool.or_assoc, References.or_update]

def spreadFrom (t : Stream) (packet : ByteArray) (preamble : Preamble) (carried : Carried)
    (own : Bool) (x : References Bool) : References Bool × Bool :=
  match Headers.read packet preamble carried with
  | .error _ => (x, false)
  | .ok h => t.spread h own x

theorem spreadFrom_unmarked (t : Stream) (packet : ByteArray) (preamble : Preamble)
    (carried : Carried) (own : Bool) (x : References Bool) :
    t.unmarked.spreadFrom packet preamble carried own x =
      t.spreadFrom packet preamble carried own x := by
  unfold spreadFrom
  cases Headers.read packet preamble carried with
  | error e => rfl
  | ok h => exact t.spread_unmarked h own x

theorem spreadFrom_or (t : Stream) (packet : ByteArray) (preamble : Preamble) (carried : Carried)
    (x y : References Bool) :
    t.spreadFrom packet preamble carried true (x.or y) =
      ((t.spreadFrom packet preamble carried true x).1.or
          (t.spreadFrom packet preamble carried false y).1,
        (t.spreadFrom packet preamble carried true x).2 ||
          (t.spreadFrom packet preamble carried false y).2) := by
  unfold spreadFrom
  cases Headers.read packet preamble carried with
  | error e => rfl
  | ok h => exact t.spread_or h x y

theorem spoils_iff_reaches : t.Spoils h ↔ t.reaches h t.pool.marks = true := by
  unfold Spoils reaches
  simp only [Grid.any_cells, PicturePool.marks_holding]

theorem decode_marks (balanced : t.pool.Balanced) (some : h.partitions ≠ []) :
    (t.decode h).1.pool.marks = (t.spread h true t.pool.marks).1 ∧
      ∀ overrun tag, (t.decode h).2 = .ok overrun →
        ((t.decode h).1.frame tag).damaged = (t.spread h true t.pool.marks).2 := by
  obtain ⟨pool, done, _, has, decoded, spoilt⟩ := decode_completes balanced some
  unfold spread
  rw [decoded]
  generalize (done.overrun || (t.modes h).2.overrun) = overrun
  by_cases lost : (overrun && h.tag.keyframe) = true
  · rw [conclude_lost lost]
    exact ⟨has.marks_abandon _, nofun⟩
  · have damaged : (finish h done.picture done.grid overrun).damaged =
        (true && overrun || t.reaches h t.pool.marks) := by
      rw [finish_damaged, Bool.true_and, Bool.or_comm]
      congr 1
      rw [Bool.eq_iff_iff, spoilt, spoils_iff_reaches]
    rw [conclude_kept lost]
    refine ⟨?_, ?_⟩
    · dsimp only
      rw [has.marks_commit, damaged]
    · intro _ tag _
      unfold Stream.frame Frame.damaged
      dsimp only
      rw [PicturePool.commit_shown, PicturePool.picture_current, damaged]

end Stream

namespace Session

variable {s : Session} {memory : Memory} {packet : ByteArray}

def marks (s : Session) : References Bool := s.stream.elim .clean fun t => t.pool.marks

def sharing (s : Session) : References Bool := s.stream.elim .clean fun t => t.pool.sharing

/-- Marks are lost with their pictures where a keyframe has another size. -/
def kept (s : Session) (preamble : Preamble) (x : References Bool) : References Bool :=
  match preamble.keyframeSize with
  | some size => if s.dimensions = (size.width, size.height) then x else .clean
  | none => x

def spread (s : Session) (memory : Memory) (packet : ByteArray) (own : Bool)
    (x : References Bool) : References Bool × Bool :=
  match Preamble.parse packet with
  | .error _ => (x, false)
  | .ok preamble =>
    match s.enter memory preamble with
    | .error e => (x.giveUp e, false)
    | .ok (t, carried) => t.spreadFrom packet preamble carried own (s.kept preamble x)

theorem kept_or (s : Session) (preamble : Preamble) (x y : References Bool) :
    s.kept preamble (x.or y) = (s.kept preamble x).or (s.kept preamble y) := by
  unfold kept
  split
  · split <;> rfl
  · rfl

theorem spread_or (s : Session) (memory : Memory) (packet : ByteArray) (x y : References Bool) :
    s.spread memory packet true (x.or y) =
      ((s.spread memory packet true x).1.or (s.spread memory packet false y).1,
        (s.spread memory packet true x).2 || (s.spread memory packet false y).2) := by
  unfold spread
  cases Preamble.parse packet with
  | error e => rfl
  | ok preamble =>
    dsimp only
    cases s.enter memory preamble with
    | error e =>
      dsimp only
      rw [References.giveUp_or]
      rfl
    | ok entered =>
      dsimp only
      rw [kept_or, Stream.spreadFrom_or]

theorem dimensions_unmarked (s : Session) : s.unmarked.dimensions = s.dimensions := by
  unfold dimensions unmarked
  cases s.stream <;> rfl

theorem sharing_unmarked (s : Session) : s.unmarked.sharing = s.sharing := by
  unfold sharing unmarked
  cases s.stream <;> rfl

theorem spread_unmarked (s : Session) (memory : Memory) (packet : ByteArray) (own : Bool)
    (x : References Bool) :
    s.unmarked.spread memory packet own x = s.spread memory packet own x := by
  have kept (preamble : Preamble) : s.unmarked.kept preamble x = s.kept preamble x := by
    unfold Session.kept
    rw [dimensions_unmarked]
  unfold spread
  cases Preamble.parse packet with
  | error e => rfl
  | ok preamble =>
    dsimp only
    rw [enter_unmarked, kept]
    cases s.enter memory preamble with
    | error e => rfl
    | ok entered =>
      dsimp only [Except.map]
      rw [Stream.spreadFrom_unmarked]

theorem enter_marks {preamble : Preamble} (parsed : Preamble.parse packet = .ok preamble)
    {t : Stream} {carried : Carried} (entered : s.enter memory preamble = .ok (t, carried)) :
    t.pool.marks = s.kept preamble s.marks := by
  unfold kept marks
  obtain ⟨noSize, _, stream, _⟩ | ⟨size, sized, configured, _⟩ := enter_ok entered
  · rw [noSize, stream]
    rfl
  · have dimensions := dimensions_eq_iff (s := s) (Preamble.parse_visible parsed size sized)
    rw [sized]
    dsimp only
    obtain ⟨u, stream, same, rfl⟩ | ⟨other, rfl⟩ := Stream.configure_ok configured
    · rw [if_pos (dimensions.mpr ⟨u, stream, same⟩), stream]
      rfl
    · rw [if_neg fun same => by
        obtain ⟨u, stream, same⟩ := dimensions.mp same
        exact other u stream same]
      rfl

theorem decodeFrom_marks {preamble : Preamble} {t : Stream} {carried : Carried}
    (balanced : t.pool.Balanced) :
    (s.decodeFrom packet preamble t carried).1.marks =
        (t.spreadFrom packet preamble carried true t.pool.marks).1 ∧
      ∀ frame, (s.decodeFrom packet preamble t carried).2 = .ok frame →
        frame.damaged = (t.spreadFrom packet preamble carried true t.pool.marks).2 := by
  unfold decodeFrom Stream.spreadFrom
  cases read : Headers.read packet preamble carried with
  | error e => exact ⟨rfl, nofun⟩
  | ok h =>
    obtain ⟨marks, frames⟩ := Stream.decode_marks balanced (Headers.read_partitions read)
    dsimp only
    generalize t.decode h = decoded at marks frames ⊢
    obtain ⟨u, e | _ | _⟩ := decoded
    · exact ⟨marks, nofun⟩
    · refine ⟨marks, ?_⟩
      rintro _ ⟨⟩
      exact frames false h.tag rfl
    · exact ⟨marks, nofun⟩

theorem giveUp_marks (s : Session) (e : DecodeError) : (s.giveUp e).marks = s.marks.giveUp e := by
  cases e <;> rfl

theorem decodePacket_marks (balanced : s.Balanced) (memory : Memory) (packet : ByteArray) :
    (s.decodePacket memory packet).1.marks = (s.spread memory packet true s.marks).1 ∧
      ∀ frame, (s.decodePacket memory packet).2 = .ok frame →
        frame.damaged = (s.spread memory packet true s.marks).2 := by
  unfold decodePacket spread
  cases parsed : Preamble.parse packet with
  | error e => exact ⟨rfl, nofun⟩
  | ok preamble =>
    dsimp only
    cases entered : s.enter memory preamble with
    | error e => exact ⟨s.giveUp_marks e, nofun⟩
    | ok enter =>
      have counted : enter.1.pool.Balanced :=
        enter_keeps Stream.balanced_invariant balanced parsed entered
      rw [← enter_marks parsed entered]
      exact decodeFrom_marks counted

theorem markLastDamaged_marks (s : Session) :
    marks { s with stream := s.stream.map Stream.markLastDamaged } = s.marks.or s.sharing := by
  unfold marks sharing
  cases s.stream with
  | none => rfl
  | some t => exact t.pool.marks_markLast

theorem recover_marks (s : Session) (keyframe : Bool) (e : DecodeError) :
    (s.recover keyframe e).1.marks =
      if !keyframe && e.isRecoverable then s.marks.or s.sharing else s.marks := by
  unfold recover
  cases keyframe with
  | true => rfl
  | false =>
    cases e with
    | corruptFrame damage => exact s.markLastDamaged_marks
    | _ => rfl

end Session

end Vp8
