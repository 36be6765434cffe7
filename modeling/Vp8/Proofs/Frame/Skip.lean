import Vp8.Deblocking.Level
import Vp8.Deblocking.Picture
import Vp8.Proofs.Frame.Progress
import Vp8.Proofs.Macroblock.Modes
import Vp8.Proofs.Residual.Visits

/-!
Two ways to code a macroblock without tokens: a flag among its modes, or blocks that all end at once.
The frames that are made of them differ in nothing but what is noted of the flag.
-/
namespace Vp8

namespace TokenContext

variable {cols : Nat}

/-- A macroblock whose blocks all end at once leaves what one without tokens leaves. -/
theorem read_blank (probs : CoefficientProbs) (t : TokenContext cols) (c : Fin cols)
    (hasSecond : Bool) :
    (t.read probs c hasSecond).Yields fun done =>
      done.1.2 = false → done.1.1 = .zero ∧ done.2 = t.skip c hasSecond := by
  have traced := (MacroblockTokens.trace_related probs hasSecond (t.above.get c) t.left).yields
    (MacroblockTokens.trace_yields _ _ _ _)
  unfold read
  apply traced.bind
  rintro _ ⟨⟨tokens, visits⟩, rfl, traced⟩ none
  obtain ⟨zero, bottom, right⟩ := traced.blank none
  have above : tokens.above = (t.above.get c).clear hasSecond := by
    rw [traced.above, bottom, EdgeFlags.clear_eq]
  have left : tokens.left = t.left.clear hasSecond := by
    rw [traced.left, right, EdgeFlags.clear_eq]
  refine ⟨zero, ?_⟩
  simp only [above, left, skip]

end TokenContext

namespace Macroblock

variable {cols : Nat}

/-- Two macroblocks alike but for the note that there are no tokens, which matters to neither of
    them where inner edges are filtered. -/
structure Twin (m n : Macroblock) : Prop where
  same : n = { m with skipped := n.skipped }
  inner : m.filtersInnerEdges = n.filtersInnerEdges

theorem Twin.refl (m : Macroblock) : m.Twin m := ⟨rfl, rfl⟩

/-- Sub-blocks are filtered around anyway, and without them there is a second-order block. -/
theorem twin_skipped (m : Macroblock) :
    Twin { m with skipped := true } { m with skipped := m.mode.hasSecondOrder } := by
  refine ⟨rfl, ?_⟩
  unfold filtersInnerEdges Mode.hasSecondOrder
  cases m.mode.bySubblock <;> rfl

theorem readResidual_skipped {m : Macroblock} (flagged : m.skipped = true)
    (factors : Vector Factors 4) (probs : CoefficientProbs) (tokens : TokenContext cols)
    (c : Fin cols) :
    m.readResidual factors probs tokens c =
      pure ((none, m), tokens.skip c m.mode.hasSecondOrder) := by
  unfold readResidual
  rw [flagged]
  rfl

def ReadsBlank (m : Macroblock) (probs : CoefficientProbs) (tokens : TokenContext cols)
    (c : Fin cols) (r : BoolReader) : Prop :=
  m.skipped = false ∧ ((tokens.read probs c m.mode.hasSecondOrder).read r).1.1.2 = false

theorem ReadsBlank.readResidual {m : Macroblock} {probs : CoefficientProbs}
    {tokens : TokenContext cols} {c : Fin cols} {r : BoolReader}
    (blank : m.ReadsBlank probs tokens c r) (factors : Vector Factors 4) :
    ((m.readResidual factors probs tokens c).read r).1 =
      ((none, { m with skipped := m.mode.hasSecondOrder }),
        tokens.skip c m.mode.hasSecondOrder) := by
  obtain ⟨unflagged, none⟩ := blank
  have skip := ((tokens.read_blank probs c m.mode.hasSecondOrder).read r none).2
  unfold Macroblock.readResidual
  simp only [unflagged, Bool.false_eq_true, if_false, Coded.read_bind, none, skip]
  rfl

end Macroblock

namespace Progress

variable {rows cols partitions : Nat} {setup : FrameSetup rows cols}
  {p q : Progress rows cols partitions}

structure Twins (r c : Nat) (p q : Progress rows cols partitions) : Prop where
  picture : p.picture = q.picture
  tokens : p.tokens = q.tokens
  readers : p.readers = q.readers
  before : ∀ y x, Grid.Before r c y x → (p.grid.get y x).Twin (q.grid.get y x)
  behind : ∀ y x, ¬ Grid.Before r c y x → p.grid.get y x = q.grid.get y x

theorem place_twins {r : Fin rows} {c : Fin cols} (picture : p.picture = q.picture)
    (before : ∀ y x, Grid.Before r c y x → (p.grid.get y x).Twin (q.grid.get y x))
    (behind : ∀ y x, ¬ Grid.Before r (c + 1) y x → p.grid.get y x = q.grid.get y x)
    {residual : Option Residual} {m n : Macroblock} (twin : m.Twin n) (tokens : TokenContext cols)
    (readers : Vector BoolReader partitions) :
    Outcome (Twins r (c + 1)) (place setup p r c ((residual, m), tokens) readers)
      (place setup q r c ((residual, n), tokens) readers) := by
  obtain ⟨skipped, rfl⟩ : ∃ skipped, n = { m with skipped } := ⟨_, twin.same⟩
  have same : (p.picture.inheritDamage setup.sources m.reference).reconstruct setup.sources r c m
      residual = (q.picture.inheritDamage setup.sources m.reference).reconstruct setup.sources r c
        { m with skipped } residual := by
    rw [picture]
    rfl
  unfold place
  dsimp only
  rw [same]
  apply (Outcome.refl _).bind
  rintro picture _ rfl
  apply Outcome.ok
  constructor
  · rfl
  · rfl
  · rfl
  · intro y x reached
    rw [Grid.get_set, Grid.get_set]
    split
    · exact twin
    · rename_i other
      exact before y x (reached.passed.resolve_left other)
  · intro y x ahead
    rw [Grid.get_set, Grid.get_set, behind y x ahead]
    split
    · rename_i here
      rw [← here.1, ← here.2] at ahead
      omega
    · rfl

theorem Twins.macroblock {r : Fin rows} {c : Fin cols} (twins : Twins r c p q)
    (positive : 0 < partitions) :
    Outcome (Twins r (c + 1)) (macroblock setup positive r p c)
      (macroblock setup positive r q c) := by
  have tokens : tokensOf setup p r c = tokensOf setup q r c := by
    unfold tokensOf
    rw [twins.tokens, twins.behind r c (by omega)]
  rw [macroblock_eq, macroblock_eq, tokens, twins.readers]
  apply place_twins twins.picture twins.before _ (.refl _)
  intro y x ahead
  exact twins.behind y x (by omega)

theorem Twins.endRow {r : Fin rows} (twins : Twins r cols p q) :
    Twins (r + 1) 0 (p.endRow r) (q.endRow r) := by
  constructor
  · simp only [Progress.endRow, twins.picture]
  · exact twins.tokens
  · exact twins.readers
  · intro y x reached
    have := x.isLt
    exact twins.before y x (by omega)
  · intro y x ahead
    exact twins.behind y x (by omega)

theorem Twins.startRow {r c : Nat} (twins : Twins r c p q) : Twins r c p.startRow q.startRow where
  picture := twins.picture
  tokens := congrArg TokenContext.startRow twins.tokens
  readers := twins.readers
  before := twins.before
  behind := twins.behind

theorem Twins.row {r : Fin rows} (twins : Twins r 0 p q) (positive : 0 < partitions) :
    Outcome (Twins (r + 1) 0) (row setup positive p r) (row setup positive q r) := by
  rw [row_eq, row_eq]
  have line := Outcome.foldlM (f := Progress.macroblock setup positive r)
    (g := Progress.macroblock setup positive r) (Twins r.val)
    (fun c p q twins => twins.macroblock positive) twins.startRow
  apply line.bind
  intro p q twins
  exact .ok twins.endRow

def finish (setup : FrameSetup rows cols) (positive : 0 < partitions) (r : Fin rows) (c : Nat)
    (p : Progress rows cols partitions) : Except DecodeError (Progress rows cols partitions) := do
  let p ← ((List.finRange cols).drop c).foldlM (macroblock setup positive r) p
  ((List.finRange rows).drop (r + 1)).foldlM (row setup positive) (p.endRow r)

theorem finish_eq (setup : FrameSetup rows cols) (positive : 0 < partitions) (r : Fin rows)
    (c : Fin cols) (p : Progress rows cols partitions) :
    finish setup positive r c p =
      macroblock setup positive r p c >>= finish setup positive r (c + 1) := by
  unfold finish
  rw [List.drop_eq_getElem_cons (by rw [List.length_finRange]; exact c.isLt),
    List.getElem_finRange]
  simp only [List.foldlM_cons, bind_assoc]
  rfl

theorem Twins.finish {r : Fin rows} {c : Nat} (le : c ≤ cols) (twins : Twins r c p q)
    (positive : 0 < partitions) :
    Outcome (Twins rows 0) (finish setup positive r c p) (finish setup positive r c q) := by
  have line := Outcome.foldlM_drop (f := Progress.macroblock setup positive r)
    (g := Progress.macroblock setup positive r) (Twins r.val)
    (fun c p q twins => twins.macroblock positive) le twins
  apply line.bind
  intro p q twins
  exact Outcome.foldlM_drop (fun r => Twins r 0) (fun r p q twins => twins.row positive) r.isLt
    twins.endRow

theorem macroblock_skipped {r : Fin rows} {c : Fin cols} (positive : 0 < partitions)
    (skipped : (p.grid.get r c).skipped = true) :
    macroblock setup positive r p c =
      place setup p r c
        ((none, p.grid.get r c), p.tokens.skip c (p.grid.get r c).mode.hasSecondOrder)
        p.readers := by
  have same := replaceAt_get p.readers (turn positive r)
  rw [macroblock_eq, tokensOf, Macroblock.readResidual_skipped skipped]
  conv_rhs => rw [← same]
  rfl

/-- The same frame with a flag for the macroblock at a position. Where its blocks would lie, the
    partition goes on with what comes behind them. -/
def flagged (setup : FrameSetup rows cols) (positive : 0 < partitions) (r : Fin rows)
    (c : Fin cols) (q : Progress rows cols partitions) : Progress rows cols partitions :=
  let k := turn positive r
  { q with
    grid := q.grid.set r c { q.grid.get r c with skipped := true }
    readers := replaceAt q.readers k ((tokensOf setup q r c).read (q.readers.get k)).2 }

def BlankAt (setup : FrameSetup rows cols) (positive : 0 < partitions) (r : Fin rows)
    (c : Fin cols) (q : Progress rows cols partitions) : Prop :=
  (q.grid.get r c).ReadsBlank setup.probs q.tokens c (q.readers.get (turn positive r))

theorem macroblock_blank {r : Fin rows} {c : Fin cols} {positive : 0 < partitions}
    (blank : BlankAt setup positive r c q) :
    let m := q.grid.get r c
    macroblock setup positive r q c =
      place setup q r c
        ((none, { m with skipped := m.mode.hasSecondOrder }), q.tokens.skip c m.mode.hasSecondOrder)
        (flagged setup positive r c q).readers := by
  dsimp only
  rw [macroblock_eq, ← Macroblock.ReadsBlank.readResidual blank setup.factors]
  rfl

theorem flagged_twins {r : Fin rows} {c : Fin cols} {positive : 0 < partitions}
    (blank : BlankAt setup positive r c q) :
    Outcome (Twins r (c + 1)) (macroblock setup positive r (flagged setup positive r c q) c)
      (macroblock setup positive r q c) := by
  have grid (y : Fin rows) (x : Fin cols) : (flagged setup positive r c q).grid.get y x =
      if r = y ∧ c = x then { q.grid.get r c with skipped := true } else q.grid.get y x :=
    q.grid.get_set r y c x _
  have here := (grid r c).trans (if_pos ⟨rfl, rfl⟩)
  have elsewhere {y : Fin rows} {x : Fin cols} (other : ¬ (r = y ∧ c = x)) :
      (flagged setup positive r c q).grid.get y x = q.grid.get y x :=
    (grid y x).trans (if_neg other)
  rw [macroblock_blank blank, macroblock_skipped positive (by rw [here]), here]
  have picture : (flagged setup positive r c q).picture = q.picture := rfl
  apply place_twins picture
  · intro y x reached
    rw [elsewhere]
    · exact .refl _
    · rintro ⟨rfl, rfl⟩
      omega
  · intro y x ahead
    apply elsewhere
    rintro ⟨rfl, rfl⟩
    omega
  · exact Macroblock.twin_skipped _

structure SameFrame (p q : Progress rows cols partitions) : Prop where
  picture : p.picture = q.picture
  tokens : p.tokens = q.tokens
  readers : p.readers = q.readers
  macroblocks : ∀ y x, (p.grid.get y x).Twin (q.grid.get y x)
  deblocked : ∀ settings base seg adjustment,
    p.picture.deblock settings (FilterLevel.ofMacroblock base seg adjustment) p.grid =
      q.picture.deblock settings (FilterLevel.ofMacroblock base seg adjustment) q.grid

end Progress

theorem Picture.deblock_twins {rows cols : Nat} {g h : Grid rows cols}
    (twins : ∀ y x, (g.get y x).Twin (h.get y x)) (settings : FilterSettings) (base : Nat)
    (seg : Segmentation) (a : FilterAdjustment) (p : Picture rows cols) :
    p.deblock settings (FilterLevel.ofMacroblock base seg a) g =
      p.deblock settings (FilterLevel.ofMacroblock base seg a) h := by
  have each (r : Fin rows) : filterAt settings (FilterLevel.ofMacroblock base seg a) g r =
      filterAt settings (FilterLevel.ofMacroblock base seg a) h r := by
    funext p c
    have level : FilterLevel.ofMacroblock base seg a (h.get r c) =
        FilterLevel.ofMacroblock base seg a (g.get r c) := by
      rw [(twins r c).same]
      rfl
    unfold filterAt
    dsimp only
    rw [level, (twins r c).inner]
  unfold deblock
  simp only [each]

namespace Progress

/-- A flag for a macroblock and blocks that all end at once are two codes for the same. They leave
    the same contexts behind and no coefficients, lead to the same pictures, and inner edges are
    filtered or not just the same. -/
theorem flag_agrees_with_blank_blocks :
    (∀ {cols : Nat} (probs : CoefficientProbs) (t : TokenContext cols) (c : Fin cols)
        (hasSecond : Bool) (reader : BoolReader),
      let done := ((t.read probs c hasSecond).read reader).1
      done.1.2 = false → done.1.1 = .zero ∧ done.2 = t.skip c hasSecond) ∧
    ∀ {rows cols partitions : Nat} {setup : FrameSetup rows cols} {positive : 0 < partitions}
      {r : Fin rows} {c : Fin cols} {q : Progress rows cols partitions},
      BlankAt setup positive r c q →
      Outcome (Twins r (c + 1)) (macroblock setup positive r (flagged setup positive r c q) c)
        (macroblock setup positive r q c) ∧
      Outcome SameFrame (finish setup positive r c (flagged setup positive r c q))
        (finish setup positive r c q) := by
  constructor
  · intro cols probs t c hasSecond reader
    exact (t.read_blank probs c hasSecond).read reader
  · intro rows cols partitions setup positive r c q blank
    have first := flagged_twins blank
    refine ⟨first, ?_⟩
    rw [finish_eq, finish_eq]
    apply first.bind
    intro p q twins
    apply (twins.finish c.isLt positive).mono
    intro p q twins
    have everywhere (y : Fin rows) (x : Fin cols) : (p.grid.get y x).Twin (q.grid.get y x) :=
      twins.before y x (.inl y.isLt)
    constructor
    · exact twins.picture
    · exact twins.tokens
    · exact twins.readers
    · exact everywhere
    · intro settings base seg adjustment
      rw [twins.picture, Picture.deblock_twins everywhere]

def lone : Progress 1 1 1 := .start (.blank 1 1) (.blank 1 1) #v[.empty]

def loneSetup : FrameSetup 1 1 where
  sources := ⟨none, none, none, .sixTap, false⟩
  factors := .replicate 4 ⟨.zero, .zero, .zero⟩
  probs := .default

theorem flag_agrees_with_blank_blocks_lone :
    let done := ((lone.tokens.read loneSetup.probs 0 true).read (lone.readers.get 0)).1
    done.1.2 = false ∧ done.1.1 = .zero ∧ done.2 = lone.tokens.skip 0 true ∧
      BlankAt loneSetup Nat.one_pos 0 0 lone ∧
      Outcome SameFrame (finish loneSetup Nat.one_pos 0 0 (flagged loneSetup Nat.one_pos 0 0 lone))
        (finish loneSetup Nat.one_pos 0 0 lone) := by
  have none :
      ((lone.tokens.read loneSetup.probs 0 true).read (lone.readers.get 0)).1.1.2 = false := by
    decide +kernel
  have blank : BlankAt loneSetup Nat.one_pos 0 0 lone := ⟨rfl, none⟩
  obtain ⟨zero, contexts⟩ := flag_agrees_with_blank_blocks.1 _ _ _ _ _ none
  exact ⟨none, zero, contexts, blank, (flag_agrees_with_blank_blocks.2 blank).2⟩

end Progress

end Vp8
