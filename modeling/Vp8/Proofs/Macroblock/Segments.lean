import Vp8.Proofs.Entropy.Tree
import Vp8.Proofs.Frame.Progress
import Vp8.Proofs.Macroblock.Modes

/-!
Where the segment of a macroblock comes from. A reader that notes every segment it finds coded reads
the same modes as the one that does not; a macroblock without a coded segment has that of the old
grid, or segment 0 in a keyframe. Nothing behind the modes changes a segment.
-/
namespace Vp8

theorem Coded.Yields.related {α : Type} {P : α → Prop} {t : Coded α} (yields : t.Yields P) :
    Related (fun a b => a = b ∧ P a) t t := by
  induction t with
  | value a => exact .value ⟨rfl, yields⟩
  | choice prob next ih => exact .choice fun bit => ih bit (yields bit)

namespace Macroblock

variable {rows cols : Nat}

theorem segmentTree_fits : segmentTree.Fits 3 0 := by decide

def readCode (ctx : ModeContext) : Coded (Option Nat) := do
  if ctx.segmentation.updateMap then
    return some (← segmentTree.read ctx.segmentation.treeProbs 0 segmentTree_fits)
  else return none

def uncodedSegment (ctx : ModeContext) (old : Nat) : Nat := if ctx.keyframe then 0 else old

theorem readSegment_eq (ctx : ModeContext) (old : Nat) :
    readSegment ctx old = do return (← readCode ctx).getD (uncodedSegment ctx old) := by
  unfold readSegment readCode uncodedSegment
  split
  · rw [bind_assoc]
    exact (bind_pure _).symm
  · split <;> rfl

def readBehind (ctx : ModeContext) (g : Grid rows cols) (r : Fin rows) (c : Fin cols)
    (segment : Nat) : Coded Macroblock := do
  let skipped ← readSkipped ctx
  let m := { Macroblock.default with segment, skipped }
  if ctx.keyframe then m.readKeyframeIntra (g.above r c) (g.left r c)
  else if ← Coded.bool ctx.header.intraProb then m.readInter ctx g r c
  else m.readInterIntra ctx.entropy

theorem read_eq (ctx : ModeContext) (g : Grid rows cols) (r : Fin rows) (c : Fin cols) :
    read ctx g r c = readSegment ctx (g.get r c).segment >>= readBehind ctx g r c := rfl

/-- Segments are coded for all macroblocks or for none, and there are four of them. -/
def Codes (ctx : ModeContext) (code : Option Nat) : Prop :=
  code.isSome = ctx.segmentation.updateMap ∧ ∀ k, code = some k → k < 4

theorem readCode_yields (ctx : ModeContext) : (readCode ctx).Yields (Codes ctx) := by
  unfold readCode Codes
  split
  · rename_i coded
    apply Coded.Yields.bind (P := (· < 4))
    · exact CodeTree.readWithin_yields (by decide) (by decide) _ _ _
    · rintro k small
      refine ⟨coded.symm, ?_⟩
      rintro _ ⟨⟩
      exact small
  · rename_i uncoded
    exact ⟨(Bool.eq_false_iff.mpr uncoded).symm, nofun⟩

theorem readSegment_small (ctx : ModeContext) {old : Nat} (small : old < 4) :
    (readSegment ctx old).Yields (· < 4) := by
  rw [readSegment_eq]
  apply (readCode_yields ctx).bind
  rintro (_ | code) ⟨_, codes⟩
  · change uncodedSegment ctx old < 4
    unfold uncodedSegment
    split
    · decide
    · exact small
  · exact codes code rfl

theorem readInter_segment {m : Macroblock} {segment : Nat} (same : m.segment = segment)
    (ctx : ModeContext) (g : Grid rows cols) (r : Fin rows) (c : Fin cols) :
    (m.readInter ctx g r c).Yields (·.segment = segment) := by
  unfold readInter
  apply Coded.Yields.after
  intro reference
  apply Coded.Yields.after
  intro leaf
  dsimp only
  split
  · exact same
  · exact same
  · apply Coded.Yields.after
    intro v
    exact same
  · unfold readSplit
    apply Coded.Yields.after
    intro split
    apply Coded.Yields.after
    intro vectors
    exact same
  · exact same

theorem readBehind_segment (ctx : ModeContext) (g : Grid rows cols) (r : Fin rows) (c : Fin cols)
    (segment : Nat) : (readBehind ctx g r c segment).Yields (·.segment = segment) := by
  unfold readBehind
  apply Coded.Yields.after
  intro skipped
  dsimp only
  split
  · exact readIntra_yields (fun _ _ _ => rfl) _ _ _
  · apply Coded.Yields.after
    intro inter
    split
    · apply readInter_segment
      rfl
    · exact readIntra_yields (fun _ _ _ => rfl) _ _ _

theorem readResidual_segment (m : Macroblock) (factors : Vector Factors 4)
    (probs : CoefficientProbs) (tokens : TokenContext cols) (c : Fin cols) :
    (m.readResidual factors probs tokens c).Yields (·.1.2.segment = m.segment) := by
  unfold readResidual
  dsimp only
  split
  · rfl
  · apply Coded.Yields.after
    intro read
    split <;> rfl

end Macroblock

namespace Grid

variable {rows cols : Nat} {ctx : ModeContext} {old : Grid rows cols}

structure Noted (rows cols : Nat) where
  grid : Grid rows cols
  codes : Nat → Nat → Option Nat

namespace Noted

def readMacroblock (ctx : ModeContext) (r : Fin rows) (x : Noted rows cols) (c : Fin cols) :
    Coded (Noted rows cols) := do
  let code ← Macroblock.readCode ctx
  let segment := code.getD (Macroblock.uncodedSegment ctx (x.grid.get r c).segment)
  let m ← Macroblock.readBehind ctx x.grid r c segment
  return {
    grid := x.grid.set r c m
    codes := fun y z => if y = r.val ∧ z = c.val then code else x.codes y z }

def readRow (ctx : ModeContext) (x : Noted rows cols) (r : Fin rows) : Coded (Noted rows cols) :=
  (List.finRange cols).foldlM (readMacroblock ctx r) x

/-- In front of a position, the grid of a noting reader is that of the plain one. The macroblocks
    before the position have the segments noted, those behind it are the old ones. -/
structure Reads (ctx : ModeContext) (old : Grid rows cols) (r c : Nat) (x : Noted rows cols)
    (g : Grid rows cols) : Prop where
  grid : x.grid = g
  before : ∀ y z, Before r c y z → Macroblock.Codes ctx (x.codes y z) ∧
    (x.grid.get y z).segment =
      (x.codes y z).getD (Macroblock.uncodedSegment ctx (old.get y z).segment)
  behind : ∀ y z, ¬ Before r c y z → x.grid.get y z = old.get y z

variable {x : Noted rows cols} {g : Grid rows cols}

theorem readMacroblock_reads {r : Fin rows} {c : Fin cols} (reads : Reads ctx old r c x g) :
    Coded.Related (Reads ctx old r (c + 1)) (readMacroblock ctx r x c)
      (do return g.set r c (← Macroblock.read ctx g r c)) := by
  obtain ⟨rfl, before, behind⟩ := reads
  have here : x.grid.get r c = old.get r c := behind r c (by omega)
  rw [Macroblock.read_eq, Macroblock.readSegment_eq, bind_assoc, bind_assoc]
  apply (Macroblock.readCode_yields ctx).related.bind
  rintro code _ ⟨rfl, codes⟩
  rw [pure_bind]
  apply (Macroblock.readBehind_segment ctx x.grid r c _).related.bind
  rintro m _ ⟨rfl, segment⟩
  refine .value ⟨rfl, ?_, ?_⟩
  · intro y z reached
    dsimp only
    rw [get_set]
    by_cases same : r = y ∧ c = z
    · obtain ⟨rfl, rfl⟩ := same
      rw [if_pos ⟨rfl, rfl⟩, if_pos ⟨rfl, rfl⟩, segment, here]
      exact ⟨codes, rfl⟩
    · have other : ¬ (y.val = r.val ∧ z.val = c.val) := fun equal =>
        same ⟨Fin.ext equal.1.symm, Fin.ext equal.2.symm⟩
      rw [if_neg same, if_neg other]
      exact before y z (by omega)
  · intro y z ahead
    dsimp only
    rw [get_set, if_neg (by rintro ⟨rfl, rfl⟩; omega)]
    exact behind y z (by omega)

theorem Reads.nextRow {r : Nat} (reads : Reads ctx old r cols x g) :
    Reads ctx old (r + 1) 0 x g where
  grid := reads.grid
  before y z reached := by
    have := z.isLt
    exact reads.before y z (by omega)
  behind y z ahead := by
    have := z.isLt
    exact reads.behind y z (by omega)

theorem readRow_reads {r : Fin rows} (reads : Reads ctx old r 0 x g) :
    Coded.Related (Reads ctx old (r + 1) 0) (readRow ctx x r) (g.readRow ctx r) := by
  unfold readRow Grid.readRow
  have line := Coded.Related.foldlM (Reads ctx old r.val)
    (fun c _ _ reads => readMacroblock_reads (c := c) reads) reads
  exact line.mono fun _ _ reads => reads.nextRow

end Noted

def readNoted (ctx : ModeContext) (g : Grid rows cols) : Coded (Noted rows cols) :=
  (List.finRange rows).foldlM (Noted.readRow ctx) ⟨g, fun _ _ => none⟩

/-- Noting the coded segments makes no difference to what is read, and every macroblock has the
    segment noted for it, or the one it has without. -/
theorem readNoted_read (ctx : ModeContext) (g : Grid rows cols) (reader : BoolReader) :
    (((g.readNoted ctx).read reader).1.grid, ((g.readNoted ctx).read reader).2) =
        (g.readModes ctx).read reader ∧
      ∀ y z,
        Macroblock.Codes ctx (((g.readNoted ctx).read reader).1.codes y.val z.val) ∧
        (((g.readModes ctx).read reader).1.get y z).segment =
          (((g.readNoted ctx).read reader).1.codes y z).getD
            (Macroblock.uncodedSegment ctx (g.get y z).segment) := by
  have start : Noted.Reads ctx g 0 0 ⟨g, fun _ _ => none⟩ g :=
    ⟨rfl, fun y z before => by omega, fun _ _ _ => rfl⟩
  have rows := Coded.Related.foldlM (fun r => Noted.Reads ctx g r 0)
    (fun r _ _ reads => Noted.readRow_reads (r := r) reads) start
  obtain ⟨reads, readers⟩ := rows.read reader
  refine ⟨Prod.ext reads.grid readers, ?_⟩
  intro y z
  obtain ⟨codes, segment⟩ := reads.before y z (.inl y.isLt)
  rw [reads.grid] at segment
  exact ⟨codes, segment⟩

def SameSegments (g h : Grid rows cols) : Prop :=
  ∀ y z, (g.get y z).segment = (h.get y z).segment

theorem SameSegments.set {g : Grid rows cols} (same : g.SameSegments old) {r : Fin rows}
    {c : Fin cols} {m : Macroblock} (segment : m.segment = (g.get r c).segment) :
    (g.set r c m).SameSegments old := by
  intro y z
  rw [get_set]
  split
  · rename_i here
    rw [segment, here.1, here.2, same]
  · exact same y z

end Grid

namespace Progress

variable {rows cols partitions : Nat} {setup : FrameSetup rows cols} {g : Grid rows cols}

theorem macroblock_segments {positive : 0 < partitions} {r : Fin rows} {c : Fin cols}
    {p q : Progress rows cols partitions} (done : macroblock setup positive r p c = .ok q)
    (same : p.grid.SameSegments g) : q.grid.SameSegments g := by
  have segment := ((p.grid.get r c).readResidual_segment setup.factors setup.probs p.tokens c).read
    (p.readers.get (turn positive r))
  rw [macroblock_eq] at done
  obtain ⟨_, _, rfl⟩ := place_ok.mp done
  exact same.set segment

theorem row_segments {positive : 0 < partitions} {r : Fin rows}
    {p q : Progress rows cols partitions} (done : row setup positive p r = .ok q)
    (same : p.grid.SameSegments g) : q.grid.SameSegments g := by
  rw [row_eq] at done
  obtain ⟨last, line, ended⟩ := bind_ok.mp done
  cases ended
  have kept : last.grid.SameSegments g :=
    foldlM_keeps (P := fun p => p.grid.SameSegments g) (fun _ _ _ => macroblock_segments) line same
  exact kept

end Progress

theorem reconstructFrame_segments {rows cols : Nat} {setup : FrameSetup rows cols}
    {target : Picture rows cols} {g : Grid rows cols} {parts : List ByteArray}
    {done : Reconstruction rows cols}
    (reconstructed : reconstructFrame setup target g parts = .ok done) :
    done.grid.SameSegments g := by
  unfold reconstructFrame at reconstructed
  split at reconstructed
  · obtain ⟨p, run, finished⟩ := bind_ok.mp reconstructed
    cases finished
    have kept : p.grid.SameSegments g :=
      foldlM_keeps (P := fun p => p.grid.SameSegments g) (fun _ _ _ => Progress.row_segments) run
        fun _ _ => rfl
    exact kept
  · contradiction

end Vp8
