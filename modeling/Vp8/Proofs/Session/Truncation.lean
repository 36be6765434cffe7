import Vp8.Proofs.Frame.Extension
import Vp8.Proofs.Frame.Lockstep
import Vp8.Proofs.Frame.Progress
import Vp8.Proofs.Session.Steps
import Vp8.Proofs.Table

/-!
Packets that are cut short. A packet that is accepted decodes in the same way whatever is appended
to it, so the beginning of a packet is either refused or decodes like the whole.
-/
namespace Vp8

namespace Progress

variable {rows cols partitions : Nat} {p q : Progress rows cols partitions}

structure Extends (p q : Progress rows cols partitions) : Prop where
  picture : q.picture = p.picture
  grid : q.grid = p.grid
  tokens : q.tokens = p.tokens
  readers : ∀ k, Vp8.Extends (p.readers.get k) (q.readers.get k)

theorem start_extends (target : Picture rows cols) (grid : Grid rows cols)
    {parts others : Vector ByteArray partitions}
    (begins : ∀ k, Begins (parts.get k) (others.get k)) :
    Extends (start target grid parts) (start target grid others) where
  picture := rfl
  grid := rfl
  tokens := rfl
  readers k := by
    unfold start
    dsimp only
    rw [get_map, get_map]
    exact BoolReader.ofBytes_extends (begins k)

theorem macroblock_overran {setup : FrameSetup rows cols} {positive : 0 < partitions}
    {r : Fin rows} {c : Fin cols} {p' : Progress rows cols partitions}
    (done : macroblock setup positive r p c = .ok p') (beyond : p.Overran) : p'.Overran := by
  rw [macroblock_eq, place_ok] at done
  obtain ⟨picture, _, rfl⟩ := done
  obtain ⟨k, beyond⟩ := beyond
  refine ⟨k, ?_⟩
  dsimp only
  rw [get_replaceAt]
  split
  · rename_i same
    rw [← same] at beyond
    exact Coded.overrun_read _ beyond
  · exact beyond

theorem macroblock_follows (setup : FrameSetup rows cols) (positive : 0 < partitions)
    (r : Fin rows) (c : Fin cols) (more : Extends p q) :
    Follows Overran Extends (macroblock setup positive r p c)
      (macroblock setup positive r q c) := by
  intro p' done whole
  rw [macroblock_eq, place_ok] at done
  obtain ⟨picture, reconstructed, rfl⟩ := done
  have tokens : tokensOf setup q r c = tokensOf setup p r c := by
    unfold tokensOf
    rw [more.grid, more.tokens]
  have enough :
      ((tokensOf setup p r c).read (p.readers.get (turn positive r))).2.overrun = false := by
    refine Bool.eq_false_iff.mpr fun beyond => whole ⟨turn positive r, ?_⟩
    dsimp only
    rw [get_replaceAt_self]
    exact beyond
  obtain ⟨same, next⟩ := Coded.read_extends _ (more.readers (turn positive r)) enough
  rw [macroblock_eq, tokens]
  dsimp only
  rw [same]
  rw [← more.picture] at reconstructed
  refine ⟨_, place_ok.mpr ⟨picture, reconstructed, rfl⟩, ?_⟩
  exact {
    picture := rfl
    grid := by rw [more.grid]
    tokens := rfl
    readers := replaceAt_related more.readers _ next }

theorem row_overran {setup : FrameSetup rows cols} {positive : 0 < partitions} {r : Fin rows}
    {p' : Progress rows cols partitions} (done : row setup positive p r = .ok p')
    (beyond : p.Overran) : p'.Overran := by
  rw [row_eq] at done
  cases line : (List.finRange cols).foldlM (macroblock setup positive r) p.startRow with
  | error e => rw [line] at done; contradiction
  | ok last =>
    rw [line] at done
    cases done
    have kept : last.Overran := foldlM_keeps (fun _ _ _ => macroblock_overran) line beyond
    exact kept

theorem row_follows (setup : FrameSetup rows cols) (positive : 0 < partitions) (r : Fin rows)
    (more : Extends p q) :
    Follows Overran Extends (row setup positive p r) (row setup positive q r) := by
  intro p' done whole
  rw [row_eq] at done ⊢
  have start : Extends p.startRow q.startRow :=
    { more with tokens := congrArg TokenContext.startRow more.tokens }
  have line := Follows.foldlM (fun _ _ _ => macroblock_overran)
    (fun _ _ c => macroblock_follows setup positive r c) (List.finRange cols) start
  cases left : (List.finRange cols).foldlM (macroblock setup positive r) p.startRow with
  | error e => rw [left] at done; contradiction
  | ok last =>
    rw [left] at done
    cases done
    obtain ⟨last', right, more'⟩ := line last left whole
    rw [right]
    refine ⟨_, rfl, { more' with picture := ?_ }⟩
    unfold endRow
    rw [more'.picture]

theorem run_follows (setup : FrameSetup rows cols) (target : Picture rows cols)
    (grid : Grid rows cols) (positive : 0 < partitions) {parts others : Vector ByteArray partitions}
    (begins : ∀ k, Begins (parts.get k) (others.get k)) :
    Follows Overran Extends (run setup target grid parts positive)
      (run setup target grid others positive) :=
  Follows.foldlM (fun _ _ _ => row_overran) (fun _ _ r => row_follows setup positive r)
    (List.finRange rows) (start_extends target grid begins)

end Progress

theorem Begins.toTables {parts others : List ByteArray}
    (begins : List.Forall₂ Begins parts others) :
    ∃ (n : Nat) (xs ys : Vector ByteArray n), parts = xs.toList ∧ others = ys.toList ∧
      ∀ k, Begins (xs.get k) (ys.get k) := by
  have size : others.length = parts.length := begins.length_eq.symm
  refine ⟨parts.length, ⟨parts.toArray, rfl⟩, ⟨others.toArray, size⟩, rfl, rfl, fun k => ?_⟩
  exact begins.get k.isLt (by omega)

theorem reconstructFrame_append {rows cols : Nat} {setup : FrameSetup rows cols}
    {target : Picture rows cols} {grid : Grid rows cols} {parts others : List ByteArray}
    {done : Reconstruction rows cols} (begins : List.Forall₂ Begins parts others)
    (reconstructed : reconstructFrame setup target grid parts = .ok done)
    (whole : done.overrun = false) : reconstructFrame setup target grid others = .ok done := by
  obtain ⟨n, xs, ys, rfl, rfl, each⟩ := Begins.toTables begins
  rw [reconstructFrame_toList] at reconstructed ⊢
  split at reconstructed
  · rename_i positive
    rw [dif_pos positive]
    cases left : Progress.run setup target grid xs positive with
    | error e => rw [left] at reconstructed; contradiction
    | ok p =>
      rw [left] at reconstructed
      cases reconstructed
      have kept : ¬ p.Overran := by
        rw [← Progress.overrun_iff]
        exact Bool.eq_false_iff.mp whole
      obtain ⟨q, right, more⟩ := Progress.run_follows setup target grid positive each p left kept
      have whole' : q.overrun = false := by
        rw [Bool.eq_false_iff, Ne, Progress.overrun_iff]
        exact fun ⟨k, beyond⟩ => kept ⟨k, (more.readers k).overrun_imp beyond⟩
      rw [right]
      change Except.ok (Reconstruction.mk q.picture q.grid q.overrun) = .ok ⟨_, _, p.overrun⟩
      rw [more.picture, more.grid, whole', show p.overrun = false from whole]
  · contradiction

/-- Headers of a packet that goes on: what was read so far is the same. -/
theorem Headers.read_append {packet : ByteArray} {preamble : Preamble} {carried : Carried}
    {h : Headers} (done : read packet preamble carried = .ok h) (whole : h.reader.overrun = false)
    (rest : ByteArray) :
    ∃ partitions reader,
      read (packet ++ rest) preamble carried = .ok { h with partitions, reader } ∧
        List.Forall₂ Begins h.partitions partitions ∧ Extends h.reader reader := by
  obtain ⟨header, partitions, first, cut, rfl⟩ := read_ok.mp done
  have more := BoolReader.ofBytes_extends
    (@extract_begins packet rest preamble.size)
  obtain ⟨same, reader⟩ := Coded.read_extends _ more whole
  obtain ⟨partitions', cut', begins⟩ := Partition.split_append rest cut
  refine ⟨partitions', _, read_ok.mpr ⟨header, partitions', ?_, cut', ?_⟩, begins, reader⟩
  · unfold compressed
    rw [same]
    exact first
  · unfold compressed
    rw [same]

namespace Stream

theorem decode_reader {t : Stream} {h : Headers} (accepted : (t.decode h).2 = .ok false) :
    h.reader.overrun = false := by
  obtain ⟨pool, done, _, _, whole⟩ := decode_ok accepted
  rw [Bool.or_eq_false_iff] at whole
  by_contra beyond
  have stays := Coded.overrun_read (t.grid.readModes h.modeContext)
    (Bool.eq_true_of_not_eq_false beyond)
  exact absurd (stays.symm.trans whole.2) (by decide)

theorem decode_append {t : Stream} {h : Headers} (accepted : (t.decode h).2 = .ok false)
    {partitions : List ByteArray} {reader : BoolReader}
    (begins : List.Forall₂ Begins h.partitions partitions) (more : Extends h.reader reader) :
    t.decode { h with partitions, reader } = t.decode h := by
  obtain ⟨pool, done, acquired, reconstructed, whole⟩ := decode_ok accepted
  rw [Bool.or_eq_false_iff] at whole
  obtain ⟨same, after⟩ := Coded.read_extends (t.grid.readModes h.modeContext) more whole.2
  have modes : (t.modes { h with partitions, reader }).1 = (t.modes h).1 := same
  have enough : (t.modes { h with partitions, reader }).2.overrun = false := by
    by_contra beyond
    have stays := after.overrun_imp (Bool.eq_true_of_not_eq_false beyond)
    exact absurd (stays.symm.trans whole.2) (by decide)
  have further : reconstructFrame (h.setup pool) (pool.picture .current)
      (t.modes { h with partitions, reader }).1 partitions = .ok done := by
    rw [modes]
    exact reconstructFrame_append begins reconstructed whole.1
  rw [decode_of_ok acquired reconstructed, decode_of_ok acquired further, enough, whole.2]
  rfl

end Stream

namespace Session

variable {s : Session} {memory : Memory} {packet : ByteArray} {frame : Frame}

theorem decodeFrom_append {preamble : Preamble} {t : Stream} {carried : Carried}
    (accepted : (s.decodeFrom packet preamble t carried).2 = .ok frame) (rest : ByteArray) :
    s.decodeFrom (packet ++ rest) preamble t carried =
      s.decodeFrom packet preamble t carried := by
  obtain ⟨h, done, decoded, _⟩ := decodeFrom_ok accepted
  obtain ⟨partitions, reader, done', begins, more⟩ :=
    Headers.read_append done (Stream.decode_reader decoded) rest
  unfold decodeFrom
  rw [done, done']
  dsimp only
  rw [Stream.decode_append decoded begins more]
  rfl

theorem decodePacket_append (accepted : (s.decodePacket memory packet).2 = .ok frame)
    (rest : ByteArray) : s.decodePacket memory (packet ++ rest) = s.decodePacket memory packet := by
  obtain ⟨preamble, t, carried, parsed, entered, same⟩ := decodePacket_ok accepted
  rw [same] at accepted ⊢
  unfold decodePacket
  rw [Preamble.parse_append parsed rest]
  dsimp only
  rw [entered]
  exact decodeFrom_append accepted rest

theorem decode_append (accepted : (s.decode memory packet).2 = .ok frame) (rest : ByteArray) :
    s.decode memory (packet ++ rest) = s.decode memory packet := by
  obtain ⟨inner, same⟩ := decode_ok accepted
  have further := decodePacket_append inner rest
  rw [same, decode_of_ok (further ▸ inner), further]

/-- An accepted packet may go on: the longer one is accepted with the same frame and leaves the same
    session. So the beginning of a packet is refused or decodes like the whole. -/
theorem truncation_is_detected (s : Session) :
    (∀ memory packet frame rest, (s.decode memory packet).2 = .ok frame →
      (s.decode memory (packet ++ rest)).2 = .ok frame ∧
        (s.decode memory (packet ++ rest)).1 = (s.decode memory packet).1) ∧
    ∀ memory packet size, (∃ e, (s.decode memory (packet.extract 0 size)).2 = .error e) ∨
      s.decode memory (packet.extract 0 size) = s.decode memory packet := by
  constructor
  · intro memory packet frame rest accepted
    rw [decode_append accepted rest]
    exact ⟨accepted, rfl⟩
  · intro memory packet size
    cases start : (s.decode memory (packet.extract 0 size)).2 with
    | error e => exact .inl ⟨e, rfl⟩
    | ok frame =>
      right
      have whole := decode_append start (packet.extract size packet.size)
      by_cases inside : size ≤ packet.size
      · rw [← ByteArray.extract_eq_extract_append_extract size (Nat.zero_le _) inside,
          ByteArray.extract_zero_size] at whole
        exact whole.symm
      · have all : packet.extract 0 size = packet := by
          have := ByteArray.extract_zero_max_size (a := packet) (i := size)
          rwa [Nat.max_eq_left (by omega)] at this
        rw [all]

/-- A keyframe at the start of a session, with two bytes appended. -/
theorem truncation_is_detected_first :
    ∃ frame, ((start .default).decode .ample changingKeyframe).2 = .ok frame ∧
      ((start .default).decode .ample (changingKeyframe ++ ⟨#[1, 2]⟩)).2 = .ok frame ∧
      ((start .default).decode .ample (changingKeyframe ++ ⟨#[1, 2]⟩)).1 =
        ((start .default).decode .ample changingKeyframe).1 := by
  have succeeds : ((start .default).decode .ample changingKeyframe).2.toBool = true := by
    decide +kernel
  obtain ⟨frame, accepted⟩ := ok_of_toBool succeeds
  exact ⟨frame, accepted,
    (truncation_is_detected (start .default)).1 .ample changingKeyframe frame _ accepted⟩

end Session

end Vp8
