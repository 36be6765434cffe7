import Vp8.Proofs.Frame.Header
import Vp8.Proofs.Macroblock.Segments
import Vp8.Proofs.Session.Requirement

/-!
The segments that a session keeps for the macroblocks of its pictures. They are those coded in the
last committed frame that coded any, for frames without a map of their own leave them alone, and a
keyframe starts from segment 0.
-/
namespace Vp8

theorem Headers.read_enabled {packet : ByteArray} {preamble : Preamble} {carried : Carried}
    {h : Headers} (read : Headers.read packet preamble carried = .ok h)
    (disabled : h.carried.segmentation.enabled = false) :
    h.carried.segmentation.updateMap = false := by
  obtain ⟨_, _, _, _, rfl⟩ := read_ok.mp read
  have enabled := (FrameHeader.read_enabled preamble.tag.keyframe carried).read
    (.ofBytes (packet.extract preamble.size packet.size))
  refine Bool.eq_false_iff.mpr fun coded => ?_
  exact Bool.false_ne_true (disabled.symm.trans (enabled coded))

namespace Stream

variable {t : Stream} {h : Headers} {r c : Nat}

def segmentAt? (t : Stream) (r c : Nat) : Option Nat := (t.grid.at? r c).map Macroblock.segment

def codes (t : Stream) (h : Headers) : Nat → Nat → Option Nat :=
  ((t.grid.readNoted h.modeContext).read h.reader).1.codes

theorem decode_grid (t : Stream) (h : Headers) :
    ∃ grid pool, (t.decode h).1 = { t with grid, pool } ∧ grid.SameSegments (t.modes h).1 := by
  rw [decode_eq]
  split
  · exact ⟨_, _, rfl, fun _ _ => rfl⟩
  · split
    · exact ⟨_, _, rfl, fun _ _ => rfl⟩
    · rename_i done reconstructed
      have same := reconstructFrame_segments reconstructed
      unfold conclude
      split
      · exact ⟨_, _, rfl, same⟩
      · exact ⟨_, _, rfl, same⟩

theorem segmentAt?_inside (t : Stream) (y : Fin (macroblocksFor t.height))
    (z : Fin (macroblocksFor t.width)) : t.segmentAt? y z = some (t.grid.get y z).segment := by
  unfold segmentAt? Grid.at?
  rw [dif_pos ⟨y.isLt, z.isLt⟩]
  rfl

theorem segmentAt?_outside
    (outside : ¬ (r < macroblocksFor t.height ∧ c < macroblocksFor t.width)) :
    t.segmentAt? r c = none := by
  unfold segmentAt? Grid.at?
  rw [dif_neg outside]
  rfl

theorem decode_segmentAt? (t : Stream) (h : Headers) (r c : Nat) :
    (t.decode h).1.segmentAt? r c = (t.segmentAt? r c).map fun old =>
      (t.codes h r c).getD (Macroblock.uncodedSegment h.modeContext old) := by
  obtain ⟨grid, pool, decoded, same⟩ := t.decode_grid h
  rw [decoded]
  by_cases inside : r < macroblocksFor t.height ∧ c < macroblocksFor t.width
  · obtain ⟨_, notes⟩ := t.grid.readNoted_read h.modeContext h.reader
    have after := segmentAt?_inside { t with grid, pool } ⟨r, inside.1⟩ ⟨c, inside.2⟩
    have before := t.segmentAt?_inside ⟨r, inside.1⟩ ⟨c, inside.2⟩
    dsimp only at after before
    rw [after, before, same]
    exact congrArg some (notes ⟨r, inside.1⟩ ⟨c, inside.2⟩).2
  · have after := segmentAt?_outside (t := { t with grid, pool }) inside
    rw [after, segmentAt?_outside inside]
    rfl

theorem codes_of_segmentAt? {old : Nat} (inside : t.segmentAt? r c = some old) :
    Macroblock.Codes h.modeContext (t.codes h r c) := by
  by_cases there : r < macroblocksFor t.height ∧ c < macroblocksFor t.width
  · obtain ⟨_, notes⟩ := t.grid.readNoted_read h.modeContext h.reader
    exact (notes ⟨r, there.1⟩ ⟨c, there.2⟩).1
  · rw [segmentAt?_outside there] at inside
    contradiction

theorem segments_invariant : Invariant fun t => ∀ r c k, t.segmentAt? r c = some k → k < 4 where
  blank size _ r c k there := by
    by_cases inside : r < macroblocksFor size.height ∧ c < macroblocksFor size.width
    · have first := (blank size).segmentAt?_inside ⟨r, inside.1⟩ ⟨c, inside.2⟩
      dsimp only at first
      rw [there] at first
      cases first
      unfold blank Grid.blank Grid.get
      simp [Macroblock.default, Vector.get]
    · rw [segmentAt?_outside inside] at there
      contradiction
  rescale small _ _ := small
  decode {t} small h r c k there := by
    rw [decode_segmentAt?, Option.map_eq_some_iff] at there
    obtain ⟨old, inside, rfl⟩ := there
    obtain ⟨_, codes⟩ := codes_of_segmentAt? (h := h) inside
    cases coded : t.codes h r c with
    | some k => exact codes k coded
    | none =>
      unfold Macroblock.uncodedSegment
      dsimp only [Option.getD_none]
      split
      · decide
      · exact small r c old inside
  markLastDamaged small := small

end Stream

namespace Session

variable {s : Session} {memory : Memory} {packet : ByteArray}

def segmentAt? (s : Session) (r c : Nat) : Option Nat := s.stream.bind fun t => t.segmentAt? r c

theorem decode_segmentAt? (s : Session) (memory : Memory) (packet : ByteArray) (r c : Nat) :
    (s.decode memory packet).1.segmentAt? r c = (s.decodePacket memory packet).1.segmentAt? r c :=
  decode_observes (fun stream => stream.bind fun t => t.segmentAt? r c) (fun _ => rfl) s memory
    packet

structure FrameCodes where
  updated : Bool
  codes : Nat → Nat → Option Nat

def frameCodes (s : Session) (memory : Memory) (packet : ByteArray) :
    Except DecodeError FrameCodes := do
  let preamble ← Preamble.parse packet
  let (t, carried) ← s.enter memory preamble
  let h ← Headers.read packet preamble carried
  return { updated := h.carried.segmentation.updateMap, codes := t.codes h }

theorem frameCodes_ok {f : FrameCodes} (coded : s.frameCodes memory packet = .ok f) :
    ∃ preamble t before h, Preamble.parse packet = .ok preamble ∧
      s.enter memory preamble = .ok (t, before) ∧ Headers.read packet preamble before = .ok h ∧
      f = { updated := h.carried.segmentation.updateMap, codes := t.codes h } := by
  unfold frameCodes at coded
  obtain ⟨preamble, parsed, coded⟩ := bind_ok.mp coded
  obtain ⟨⟨t, before⟩, entered, coded⟩ := bind_ok.mp coded
  obtain ⟨h, read, coded⟩ := bind_ok.mp coded
  exact ⟨preamble, t, before, h, parsed, entered, read, (Except.ok.inj coded).symm⟩

theorem commitFrame_of_read {preamble : Preamble} {t : Stream} {before : Carried} {h : Headers}
    (parsed : Preamble.parse packet = .ok preamble)
    (entered : s.enter memory preamble = .ok (t, before))
    (read : Headers.read packet preamble before = .ok h) :
    s.commitFrame memory packet = (t.decode h).2 ∧
      (s.decodePacket memory packet).1.stream = some (t.decode h).1 := by
  constructor
  · unfold commitFrame
    rw [parsed]
    change s.enter memory preamble >>= _ = _
    rw [entered]
    change Headers.read packet preamble before >>= _ = _
    rw [read]
    rfl
  · unfold decodePacket
    rw [parsed]
    dsimp only
    rw [entered]
    dsimp only
    unfold decodeFrom
    rw [read]
    dsimp only
    generalize t.decode h = x
    obtain ⟨u, e | _ | _⟩ := x <;> rfl

theorem frameCodes_of_commitFrame {overrun : Bool}
    (committed : s.commitFrame memory packet = .ok overrun) :
    ∃ f, s.frameCodes memory packet = .ok f := by
  unfold commitFrame at committed
  obtain ⟨preamble, parsed, committed⟩ := bind_ok.mp committed
  obtain ⟨⟨t, before⟩, entered, committed⟩ := bind_ok.mp committed
  obtain ⟨h, read, _⟩ := bind_ok.mp committed
  refine ⟨{ updated := h.carried.segmentation.updateMap, codes := t.codes h }, ?_⟩
  exact bind_ok.mpr ⟨preamble, parsed, bind_ok.mpr ⟨(t, before), entered,
    bind_ok.mpr ⟨h, read, rfl⟩⟩⟩

/-- What a packet makes of a segment: nothing if its frame is not committed; else the segment is
    the coded one, or else 0 in a keyframe and the old one in other frames. -/
theorem decode_committed {f : FrameCodes} (coded : s.frameCodes memory packet = .ok f) :
    (isKeyframe packet = false → ∀ r c, (s.decode memory packet).1.segmentAt? r c =
      (s.segmentAt? r c).map fun old => (f.codes r c).getD old) ∧
    (isKeyframe packet = true → ∀ r c k, (s.decode memory packet).1.segmentAt? r c = some k →
      (f.codes r c).getD 0 = k) ∧
    ∀ r c k, (s.decode memory packet).1.segmentAt? r c = some k →
      (f.codes r c).isSome = f.updated := by
  obtain ⟨preamble, t, before, h, parsed, entered, read, rfl⟩ := frameCodes_ok coded
  have tag : h.tag.keyframe = isKeyframe packet := by
    rw [Headers.read_tag read, (Preamble.parse_keyframe parsed).1]
  have after (r c : Nat) :
      (s.decode memory packet).1.segmentAt? r c = (t.decode h).1.segmentAt? r c := by
    rw [decode_segmentAt?]
    unfold segmentAt?
    rw [(commitFrame_of_read parsed entered read).2]
    rfl
  refine ⟨?_, ?_, ?_⟩
  · intro inter r c
    have stream := enter_inter parsed inter entered
    rw [after, Stream.decode_segmentAt?]
    unfold segmentAt? Macroblock.uncodedSegment Headers.modeContext
    rw [stream, tag, inter]
    rfl
  · intro keyframe r c k there
    rw [after, Stream.decode_segmentAt?, Option.map_eq_some_iff] at there
    obtain ⟨_, _, rfl⟩ := there
    unfold Macroblock.uncodedSegment Headers.modeContext
    rw [tag, keyframe]
    rfl
  · intro r c k there
    rw [after, Stream.decode_segmentAt?, Option.map_eq_some_iff] at there
    obtain ⟨_, inside, _⟩ := there
    exact (Stream.codes_of_segmentAt? inside).1

/-- A frame that is no keyframe and codes no segments, or is not committed, leaves all segments as
    they are. -/
theorem decode_uncoded (reachable : s.Reachable) (inter : isKeyframe packet = false)
    (uncoded : ∀ overrun f, s.commitFrame memory packet = .ok overrun →
      s.frameCodes memory packet = .ok f → f.updated = false) (r c : Nat) :
    (s.decode memory packet).1.segmentAt? r c = s.segmentAt? r c := by
  cases committed : s.commitFrame memory packet with
  | error e =>
    rw [decode_segmentAt?, decodePacket_rejected reachable.balanced inter committed]
  | ok overrun =>
    obtain ⟨f, coded⟩ := frameCodes_of_commitFrame committed
    obtain ⟨after, _, some⟩ := decode_committed coded
    cases there : s.segmentAt? r c with
    | none =>
      rw [after inter, there]
      rfl
    | some old =>
      have none : f.codes r c = none := by
        have kept := after inter r c
        rw [there, Option.map_some] at kept
        have present := some r c _ kept
        rw [uncoded overrun f committed coded] at present
        exact Option.isSome_eq_false_iff.mp present |> Option.isNone_iff_eq_none.mp
      rw [after inter, there, none]
      rfl

/-- The committed frames since the last accepted keyframe, the most recent one first. -/
def committedSince (x : Session × List FrameCodes) (memory : Memory) (packet : ByteArray) :
    List FrameCodes :=
  match x.1.commitFrame memory packet, x.1.frameCodes memory packet with
  | .ok _, .ok f => if isKeyframe packet then [f] else f :: x.2
  | _, _ => x.2

def chart (x : Session × List FrameCodes) (c : Call) : Session × List FrameCodes :=
  ((x.1.call c).1,
    match c with
    | .decode memory packet => committedSince x memory packet
    | .reset => [])

def codedLast (frames : List FrameCodes) (r c : Nat) : Option Nat :=
  match frames.find? FrameCodes.updated with
  | some f => f.codes r c
  | none => some 0

theorem codedLast_cons (f : FrameCodes) (frames : List FrameCodes) (r c : Nat) :
    codedLast (f :: frames) r c =
      if f.updated then f.codes r c else codedLast frames r c := by
  unfold codedLast
  rw [List.find?_cons]
  cases f.updated <;> rfl

/-- A macroblock has the segment coded for it in the most recent frame, or the one from before. -/
theorem codedLast_getD {f : FrameCodes} {frames : List FrameCodes} {r c old : Nat}
    (present : (f.codes r c).isSome = f.updated) (before : codedLast frames r c = some old) :
    codedLast (f :: frames) r c = some ((f.codes r c).getD old) := by
  rw [codedLast_cons, ← present]
  cases f.codes r c with
  | some k => rfl
  | none => exact before

structure Charted (x : Session × List FrameCodes) : Prop where
  reachable : x.1.Reachable
  segments : x.1.awaitingKeyframe = false →
    ∀ r c k, x.1.segmentAt? r c = some k → codedLast x.2 r c = some k

theorem Charted.decode {x : Session × List FrameCodes} (charted : Charted x) (memory : Memory)
    (packet : ByteArray) (streaming : (x.1.decode memory packet).1.awaitingKeyframe = false)
    {r c k : Nat}
    (there : (x.1.decode memory packet).1.segmentAt? r c = some k) :
    codedLast (committedSince x memory packet) r c = some k := by
  rw [decode_awaiting] at streaming
  unfold committedSince
  cases keyframe : isKeyframe packet with
  | true =>
    rw [keyframe] at streaming
    -- the session does not wait, so the keyframe was accepted
    have taken : (x.1.decode memory packet).2.toBool = true := by simpa using streaming
    obtain ⟨frame, accepted⟩ := ok_of_toBool taken
    obtain ⟨preamble, t, before, h, parsed, entered, read, decoded, _⟩ := decode_begun accepted
    have committed := (commitFrame_of_read parsed entered read).1.trans decoded
    obtain ⟨f, coded⟩ := frameCodes_of_commitFrame committed
    obtain ⟨_, segment, updated⟩ := decode_committed coded
    rw [committed, coded]
    dsimp only
    rw [if_pos rfl, ← segment keyframe r c k there]
    exact codedLast_getD (updated r c k there) rfl
  | false =>
    rw [keyframe] at streaming
    cases committed : x.1.commitFrame memory packet with
    | error e =>
      dsimp only
      rw [decode_segmentAt?,
        decodePacket_rejected charted.reachable.balanced keyframe committed] at there
      exact charted.segments streaming r c k there
    | ok overrun =>
      obtain ⟨f, coded⟩ := frameCodes_of_commitFrame committed
      obtain ⟨after, _, updated⟩ := decode_committed coded
      have present := updated r c k there
      rw [after keyframe, Option.map_eq_some_iff] at there
      obtain ⟨old, there, rfl⟩ := there
      rw [coded]
      dsimp only
      exact codedLast_getD present (charted.segments streaming r c old there)

theorem Charted.chart {x : Session × List FrameCodes} (charted : Charted x) (c : Call) :
    Charted (chart x c) where
  reachable := charted.reachable.call c
  segments := by
    cases c with
    | decode memory packet =>
      exact fun streaming r c k there => charted.decode memory packet streaming there
    | reset => exact nofun

theorem Charted.charts {x : Session × List FrameCodes} (charted : Charted x) (calls : List Call) :
    Charted (calls.foldl Session.chart x) := by
  induction calls generalizing x with
  | nil => exact charted
  | cons c calls ih => exact ih (charted.chart c)

/-- After any calls, a session that does not wait for a keyframe has for every macroblock the
    segment coded for it in the last committed frame that updated the map, among those since and
    including the last accepted keyframe, and segment 0 if none of them did. Segments are always
    below 4. A packet that is no keyframe leaves them as they are if it is refused before its frame
    is committed or if its header does not update the map, and no header does so without
    segments. -/
theorem segments_are_coded_last (limits : Limits) (calls : List Call) :
    let x := calls.foldl chart (start limits, [])
    (x.1.awaitingKeyframe = false → ∃ t, x.1.stream = some t ∧
        ∀ r c, codedLast x.2 r.val c.val = some (t.grid.get r c).segment) ∧
      (∀ t, x.1.stream = some t → ∀ r c, (t.grid.get r c).segment < 4) ∧
      (∀ memory packet, isKeyframe packet = false →
        (∀ overrun f, x.1.commitFrame memory packet = .ok overrun →
          x.1.frameCodes memory packet = .ok f → f.updated = false) →
        ∀ r c, (x.1.decode memory packet).1.segmentAt? r c = x.1.segmentAt? r c) ∧
      ∀ packet preamble before h, Headers.read packet preamble before = .ok h →
        h.carried.segmentation.enabled = false → h.carried.segmentation.updateMap = false := by
  intro x
  have charted : Charted x :=
    Charted.charts (x := (start limits, [])) ⟨.start limits, nofun⟩ calls
  refine ⟨?_, ?_, ?_, fun _ _ _ _ read => Headers.read_enabled read⟩
  · intro streaming
    obtain ⟨t, stream⟩ := Option.isSome_iff_exists.mp (charted.reachable.ready streaming)
    refine ⟨t, stream, fun r c => charted.segments streaming r c _ ?_⟩
    unfold segmentAt?
    rw [stream]
    exact t.segmentAt?_inside r c
  · intro t stream r c
    exact charted.reachable.keeps Stream.segments_invariant t stream r c _ (t.segmentAt?_inside r c)
  · intro memory packet inter uncoded r c
    exact decode_uncoded charted.reachable inter uncoded r c

end Session

end Vp8
