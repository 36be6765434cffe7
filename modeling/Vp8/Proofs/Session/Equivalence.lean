import Vp8.Proofs.Deblocking.Agreement
import Vp8.Proofs.Frame.Independence
import Vp8.Proofs.Frame.Preamble
import Vp8.Proofs.Session.Reachable

/-!
Sessions that no further packet can tell apart. Their pools hold the same pictures as references, in
whatever places, and nothing is said about the picture that is free.
-/
namespace Vp8

namespace Stream

theorem finish_alike {rows cols : Nat} (h : Headers) {d e : Reconstruction rows cols}
    (alike : d.Alike e) (visible : 0 < rows ∧ 0 < cols) (overrun : Bool) :
    finish h d.picture d.grid overrun = finish h e.picture e.grid overrun := by
  unfold finish
  dsimp only
  rw [alike.grid, (alike.picture.deblock _ _ _).extend visible]

/-- Streams of one size, with pools that later packets cannot tell apart. -/
inductive Alike : Stream → Stream → Prop where
  | mk {width height horizontalScale verticalScale : Nat}
    {pool pool' : PicturePool (macroblocksFor height) (macroblocksFor width)}
    {grid : Grid (macroblocksFor height) (macroblocksFor width)}
    (visible : 0 < width ∧ 0 < height) (pools : pool.Alike pool') :
    Alike ⟨width, height, horizontalScale, verticalScale, pool, grid⟩
      ⟨width, height, horizontalScale, verticalScale, pool', grid⟩

structure SameStep (tag : FrameTag) (x y : Stream × Except DecodeError Bool) : Prop where
  answers : x.2 = y.2
  frames : ∀ overrun, x.2 = .ok overrun → x.1.frame tag = y.1.frame tag

theorem macroblocksFor_pos {pixels : Nat} (some : 0 < pixels) : 0 < macroblocksFor pixels := by
  unfold macroblocksFor
  omega

section Frames

variable {width height horizontalScale verticalScale : Nat}
  {pool pool' r s : PicturePool (macroblocksFor height) (macroblocksFor width)}
  {grid grid' : Grid (macroblocksFor height) (macroblocksFor width)}

theorem setup_sources (h : Headers) (matching : PicturePool.Matching (· ≠ .current) pool pool')
    (left : PicturePool.Acquired pool r) (right : PicturePool.Acquired pool' s) :
    (h.setup r).sources = (h.setup s).sources := by
  unfold Headers.setup
  dsimp only
  rw [left.reference? (by decide), left.reference? (by decide), left.reference? (by decide),
    right.reference? (by decide), right.reference? (by decide), right.reference? (by decide),
    matching.pictures .last (by decide), matching.pictures .golden (by decide),
    matching.pictures .altref (by decide)]

theorem decode_outcome (h : Headers) (acquired : pool.acquire = .ok r)
    (acquired' : pool'.acquire = .ok s)
    (modes : (grid.readModes h.modeContext).read h.reader =
      (grid'.readModes h.modeContext).read h.reader)
    (compatible : Progress.Compatible (h.setup r) (h.setup s)
      ((grid.readModes h.modeContext).read h.reader).1) :
    let t : Stream := ⟨width, height, horizontalScale, verticalScale, pool, grid⟩
    let u : Stream := ⟨width, height, horizontalScale, verticalScale, pool', grid'⟩
    (∃ e g, t.decode h = ({ t with grid := g, pool := r.abandon }, .error e) ∧
      u.decode h = ({ u with grid := g, pool := s.abandon }, .error e)) ∨
    ∃ d e overrun, d.Alike e ∧ t.decode h = t.conclude h r d overrun ∧
      u.decode h = u.conclude h s e overrun := by
  intro t u
  have outcome : Outcome Reconstruction.Alike
      (reconstructFrame (h.setup r) (r.picture .current) (t.modes h).1 h.partitions)
      (reconstructFrame (h.setup s) (s.picture .current) (t.modes h).1 h.partitions) :=
    reconstructFrame_alike _ _ h.partitions compatible
  have equal : t.modes h = u.modes h := modes
  generalize left : reconstructFrame (h.setup r) (r.picture .current) (t.modes h).1
    h.partitions = x at outcome
  generalize right : reconstructFrame (h.setup s) (s.picture .current) (t.modes h).1
    h.partitions = y at outcome
  rw [equal] at right
  cases outcome with
  | error e =>
    refine .inl ⟨e, (t.modes h).1, decode_of_error acquired left, ?_⟩
    rw [equal]
    exact decode_of_error acquired' right
  | @ok d e alike =>
    refine .inr ⟨d, e, d.overrun || (t.modes h).2.overrun, alike, decode_of_ok acquired left, ?_⟩
    rw [alike.overrun, equal]
    exact decode_of_ok acquired' right

theorem conclude_same (h : Headers) (visible : 0 < width ∧ 0 < height)
    {d e : Reconstruction (macroblocksFor height) (macroblocksFor width)} (alike : d.Alike e)
    (overrun : Bool) :
    let t : Stream := ⟨width, height, horizontalScale, verticalScale, pool, grid⟩
    let u : Stream := ⟨width, height, horizontalScale, verticalScale, pool', grid'⟩
    SameStep h.tag (t.conclude h r d overrun) (u.conclude h s e overrun) := by
  intro t u
  have finished := finish_alike h alike
    ⟨macroblocksFor_pos visible.2, macroblocksFor_pos visible.1⟩ overrun
  by_cases lost : (overrun && h.tag.keyframe) = true
  · rw [conclude_lost lost, conclude_lost lost]
    exact ⟨rfl, nofun⟩
  · rw [conclude_kept lost, conclude_kept lost]
    refine ⟨rfl, fun _ _ => ?_⟩
    unfold Stream.frame
    dsimp only
    rw [PicturePool.commit_shown, PicturePool.commit_shown, PicturePool.picture_current,
      PicturePool.picture_current]
    congr 1

end Frames

theorem Alike.decode {t u : Stream} (alike : Alike t u) (h : Headers) :
    SameStep h.tag (t.decode h) (u.decode h) ∧ Alike (t.decode h).1 (u.decode h).1 := by
  obtain ⟨visible, pools⟩ := alike
  obtain ⟨r, acquired, left⟩ := PicturePool.acquire_balanced pools.left
  obtain ⟨s, acquired', right⟩ := PicturePool.acquire_balanced pools.right
  have matching := pools.matching.acquired left right
  rcases decode_outcome h acquired acquired' rfl
    ⟨rfl, rfl, .inl (setup_sources h pools.matching left right)⟩ with
    ⟨e, g, first, second⟩ | ⟨d, e, overrun, same, first, second⟩
  · rw [first, second]
    exact ⟨⟨rfl, nofun⟩, .mk visible (.abandon matching left.counted right.counted)⟩
  · rw [first, second]
    refine ⟨conclude_same h visible same overrun, ?_⟩
    by_cases lost : (overrun && h.tag.keyframe) = true
    · rw [conclude_lost lost, conclude_lost lost, same.grid]
      apply Alike.mk visible
      apply PicturePool.Alike.abandon
      · exact matching.discard left.fresh right.fresh _ _
      · exact left.counted
      · exact right.counted
    · have finished := finish_alike h same
        ⟨macroblocksFor_pos visible.2, macroblocksFor_pos visible.1⟩ overrun
      have grids := same.grid
      rw [conclude_kept lost, conclude_kept lost, finished, grids]
      apply Alike.mk visible
      apply PicturePool.Alike.commit
      · exact (matching.finish left.fresh right.fresh _).commit _
      · exact PicturePool.setPicture_counted left.counted _ _
      · exact PicturePool.setPicture_counted right.counted _ _

theorem Alike.refl {t : Stream} (visible : 0 < t.width ∧ 0 < t.height)
    (balanced : t.pool.Balanced) : Alike t t := by
  refine .mk visible ⟨⟨?_, ?_⟩, balanced, balanced⟩
  · intro a _
    rfl
  · intro a b _ _
    exact Iff.rfl

theorem Alike.markLastDamaged {t u : Stream} (alike : Alike t u) :
    Alike t.markLastDamaged u.markLastDamaged := by
  obtain ⟨visible, pools⟩ := alike
  exact .mk visible (pools.markDamaged (by decide))

theorem allocate_alike (memory : Memory) {size : KeyframeSize}
    (visible : 0 < size.width ∧ 0 < size.height) :
    Outcome Alike (allocate memory size) (allocate memory size) := by
  cases allocated : allocate memory size with
  | error e => exact .error e
  | ok t =>
    obtain rfl := allocate_ok allocated
    exact .ok (.refl visible (blank_balanced size))

theorem configure_alike {limits : Limits} (memory : Memory) {old old' : Option Stream}
    (alike : Option.Rel Alike old old') {size : KeyframeSize}
    (visible : 0 < size.width ∧ 0 < size.height) :
    Outcome Alike (configure limits memory old size) (configure limits memory old' size) := by
  unfold configure
  by_cases large : limits.maxWidth < size.width ∨ limits.maxHeight < size.height
  · rw [if_pos large, if_pos large]
    exact .error _
  · rw [if_neg large, if_neg large]
    have fresh := allocate_alike memory visible
    cases alike with
    | none => exact fresh
    | some alike =>
      obtain ⟨visible, pools⟩ := alike
      dsimp only
      split
      · exact .ok (.mk visible pools)
      · exact fresh

end Stream

namespace Session

variable {s t : Session}

structure Alike (s t : Session) : Prop where
  limits : s.limits = t.limits
  stream : Option.Rel Stream.Alike s.stream t.stream
  carried : s.carried = t.carried
  awaitingKeyframe : s.awaitingKeyframe = t.awaitingKeyframe

def Agree {α : Type} (x y : Session × α) : Prop := x.2 = y.2 ∧ Alike x.1 y.1

theorem Alike.enter (alike : Alike s t) (memory : Memory) {preamble : Preamble}
    (visible : ∀ size, preamble.keyframeSize = some size → 0 < size.width ∧ 0 < size.height) :
    Outcome (fun x y => Stream.Alike x.1 y.1 ∧ x.2 = y.2) (s.enter memory preamble)
      (t.enter memory preamble) := by
  unfold Session.enter
  cases size : preamble.keyframeSize with
  | some size' =>
    dsimp only
    rw [alike.limits]
    apply (Stream.configure_alike memory alike.stream (visible size' size)).bind
    intro u v streams
    exact .ok ⟨streams, rfl⟩
  | none =>
    dsimp only
    rw [alike.awaitingKeyframe, alike.carried]
    have streams := alike.stream
    generalize s.stream = u at streams ⊢
    generalize t.stream = v at streams ⊢
    cases t.awaitingKeyframe with
    | true => exact .error _
    | false =>
      cases streams with
      | none => exact .error _
      | some streams => exact .ok ⟨streams, rfl⟩

theorem Alike.decodeFrom (alike : Alike s t) (packet : ByteArray) (preamble : Preamble)
    {u v : Stream} (streams : Stream.Alike u v) (carried : Carried) :
    Agree (s.decodeFrom packet preamble u carried) (t.decodeFrom packet preamble v carried) := by
  unfold Session.decodeFrom
  cases Headers.read packet preamble carried with
  | error e => exact ⟨rfl, alike.limits, .some streams, alike.carried, alike.awaitingKeyframe⟩
  | ok h =>
    obtain ⟨⟨answers, frames⟩, next⟩ := streams.decode h
    dsimp only
    generalize u.decode h = x at answers frames next ⊢
    generalize v.decode h = y at answers frames next ⊢
    obtain ⟨u', answer⟩ := x
    obtain ⟨v', _⟩ := y
    cases answers
    have settled : settle s.carried h = settle t.carried h := by rw [alike.carried]
    match answer with
    | .error e => exact ⟨rfl, alike.limits, .some next, alike.carried, alike.awaitingKeyframe⟩
    | .ok true => exact ⟨rfl, alike.limits, .some next, settled, alike.awaitingKeyframe⟩
    | .ok false =>
      refine ⟨congrArg Except.ok (frames false rfl), alike.limits, .some next, settled, ?_⟩
      dsimp only
      rw [alike.awaitingKeyframe]

theorem Alike.giveUp (alike : Alike s t) (e : DecodeError) : Alike (s.giveUp e) (t.giveUp e) := by
  cases e with
  | allocationFailed bytes => exact { alike with stream := .none }
  | _ => exact alike

theorem Alike.decodePacket (alike : Alike s t) (memory : Memory) (packet : ByteArray) :
    Agree (s.decodePacket memory packet) (t.decodePacket memory packet) := by
  unfold Session.decodePacket
  cases parsed : Preamble.parse packet with
  | error e => exact ⟨rfl, alike⟩
  | ok preamble =>
    have entered := alike.enter memory (Preamble.parse_visible parsed)
    dsimp only
    generalize s.enter memory preamble = x at entered ⊢
    generalize t.enter memory preamble = y at entered ⊢
    cases entered with
    | error e => exact ⟨rfl, alike.giveUp e⟩
    | @ok p q streams =>
      obtain ⟨u, carried⟩ := p
      obtain ⟨v, _⟩ := q
      obtain ⟨streams, rfl⟩ := streams
      exact alike.decodeFrom packet preamble streams carried

theorem Alike.recover (alike : Alike s t) (keyframe : Bool) (e : DecodeError) :
    Agree (s.recover keyframe e) (t.recover keyframe e) := by
  unfold Session.recover
  cases keyframe with
  | true => exact ⟨rfl, alike.limits, alike.stream, alike.carried, rfl⟩
  | false =>
    have marked : Option.Rel Stream.Alike (s.stream.map Stream.markLastDamaged)
        (t.stream.map Stream.markLastDamaged) := by
      have streams := alike.stream
      generalize s.stream = u at streams ⊢
      generalize t.stream = v at streams ⊢
      cases streams with
      | none => exact .none
      | some streams => exact .some streams.markLastDamaged
    cases e with
    | corruptFrame => exact ⟨rfl, alike.limits, marked, alike.carried, alike.awaitingKeyframe⟩
    | _ => exact ⟨rfl, alike⟩

theorem Alike.decode (alike : Alike s t) (memory : Memory) (packet : ByteArray) :
    Agree (s.decode memory packet) (t.decode memory packet) := by
  obtain ⟨answers, next⟩ := alike.decodePacket memory packet
  unfold Session.decode
  generalize s.decodePacket memory packet = x at answers next ⊢
  generalize t.decodePacket memory packet = y at answers next ⊢
  obtain ⟨s', answer⟩ := x
  obtain ⟨t', _⟩ := y
  cases answers
  cases answer with
  | ok frame => exact ⟨rfl, next⟩
  | error e =>
    obtain ⟨same, recovered⟩ := next.recover (isKeyframe packet) e
    exact ⟨congrArg Except.error same, recovered⟩

theorem Alike.call (alike : Alike s t) (c : Call) : Agree (s.call c) (t.call c) := by
  cases c with
  | decode memory packet =>
    obtain ⟨answers, next⟩ := alike.decode memory packet
    exact ⟨congrArg some answers, next⟩
  | reset =>
    refine ⟨rfl, alike.limits, ?_, rfl, rfl⟩
    exact .none

theorem Alike.answers (alike : Alike s t) (calls : List Call) :
    s.answers calls = t.answers calls := by
  induction calls generalizing s t with
  | nil => rfl
  | cons c calls ih =>
    obtain ⟨answer, next⟩ := alike.call c
    unfold Session.answers
    rw [answer, ih next]

end Session

end Vp8
