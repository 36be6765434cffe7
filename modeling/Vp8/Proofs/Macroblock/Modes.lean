import Vp8.Macroblock.Modes
import Vp8.Proofs.Entropy.Coded
import Vp8.Proofs.Table

/-!
The modes of a keyframe. A macroblock is read in the context of those above it and to its left,
which belong to the same frame, so nothing of an earlier grid has a say.
-/
namespace Vp8

namespace Grid

variable {rows cols : Nat} {g h : Grid rows cols}

theorem get_set (g : Grid rows cols) (r y : Fin rows) (c x : Fin cols) (m : Macroblock) :
    (g.set r c m).get y x = if r = y ∧ c = x then m else g.get y x := by
  unfold set get
  dsimp only
  rw [get_replaceAt]
  by_cases row : r = y
  · subst row
    rw [if_pos rfl, get_replaceAt]
    simp only [true_and]
  · rw [if_neg row, if_neg]
    exact fun same => row same.1

theorem ext_get (same : ∀ r c, g.get r c = h.get r c) : g = h := by
  cases g
  cases h
  congr 1
  apply Vp8.ext_get
  intro r
  apply Vp8.ext_get
  exact same r

abbrev Before (r c : Nat) (y : Fin rows) (x : Fin cols) : Prop := y.val < r ∨ y.val = r ∧ x.val < c

theorem Before.passed {r y : Fin rows} {c x : Fin cols} (before : Before r (c + 1) y x) :
    (r = y ∧ c = x) ∨ Before r c y x := by
  have row := @Fin.ext _ r y
  have column := @Fin.ext _ c x
  omega

theorem Before.other {r y : Fin rows} {c x : Fin cols} (before : Before r c y x) :
    ¬ (y = r ∧ x = c) := by
  rintro ⟨rfl, rfl⟩
  omega

/-- Grids with the same intra macroblocks before a position. -/
def SameBefore (r c : Nat) (g h : Grid rows cols) : Prop :=
  ∀ y x, Before r c y x → g.get y x = h.get y x ∧ (g.get y x).reference = .current

theorem SameBefore.above {r : Fin rows} {c : Fin cols} (same : SameBefore r c g h) :
    g.above r c = h.above r c := by
  unfold Grid.above
  split
  · apply (same _ _ _).1
    left
    dsimp only
    omega
  · rfl

theorem SameBefore.left {r : Fin rows} {c : Fin cols} (same : SameBefore r c g h) :
    g.left r c = h.left r c := by
  unfold Grid.left
  split
  · apply (same _ _ _).1
    right
    dsimp only
    omega
  · rfl

theorem SameBefore.set {r : Fin rows} {c : Fin cols} (same : SameBefore r c g h) {m : Macroblock}
    (intra : m.reference = .current) : SameBefore r (c + 1) (g.set r c m) (h.set r c m) := by
  intro y x before
  rw [get_set, get_set]
  split
  · exact ⟨rfl, intra⟩
  · rename_i other
    exact same y x (before.passed.resolve_left other)

theorem SameBefore.next {r : Nat} (same : SameBefore r cols g h) : SameBefore (r + 1) 0 g h := by
  intro y x before
  apply same
  have := x.isLt
  omega

end Grid

namespace Macroblock

variable {rows cols : Nat} {g h : Grid rows cols} {ctx : ModeContext}

theorem readSegment_keyframe (keyframe : ctx.keyframe = true) (old other : Nat) :
    readSegment ctx old = readSegment ctx other := by
  unfold readSegment
  rw [keyframe]
  rfl

theorem readIntra_current {m : Macroblock} (intra : m.reference = .current) (luma : Coded Nat)
    (subblocks : Coded (Vector SubblockMode 16)) (chroma : Coded Nat) :
    Coded.Related (fun a b => a = b ∧ a.reference = .current)
      (m.readIntra luma subblocks chroma) (m.readIntra luma subblocks chroma) := by
  unfold readIntra
  apply Coded.Related.bind_same
  intro leaf
  dsimp only
  split
  all_goals
    apply Coded.Related.bind_same
    intro modes
    apply Coded.Related.bind_same
    intro chromaLeaf
    exact .value ⟨rfl, intra⟩

theorem read_keyframe (keyframe : ctx.keyframe = true) {r : Fin rows} {c : Fin cols}
    (same : g.SameBefore r c h) :
    Coded.Related (fun m n => m = n ∧ m.reference = .current) (read ctx g r c)
      (read ctx h r c) := by
  unfold read
  rw [readSegment_keyframe keyframe _ (h.get r c).segment]
  apply Coded.Related.bind_same
  intro segment
  apply Coded.Related.bind_same
  intro skipped
  dsimp only
  rw [if_pos keyframe, if_pos keyframe, same.above, same.left]
  unfold readKeyframeIntra
  exact readIntra_current rfl _ _ _

end Macroblock

namespace Grid

variable {rows cols : Nat} {ctx : ModeContext}

theorem readRow_keyframe (keyframe : ctx.keyframe = true) {g h : Grid rows cols} {r : Fin rows}
    (same : g.SameBefore r 0 h) :
    Coded.Related (SameBefore (r + 1) 0) (g.readRow ctx r) (h.readRow ctx r) := by
  unfold readRow
  have line := Coded.Related.foldlM (SameBefore r.val)
    (f := fun g c => do return g.set r c (← Macroblock.read ctx g r c))
    (g := fun g c => do return g.set r c (← Macroblock.read ctx g r c))
    (by
      intro c g h same
      apply (Macroblock.read_keyframe keyframe same).bind
      rintro m _ ⟨rfl, intra⟩
      exact .value (same.set intra)) same
  exact line.mono fun g h same => same.next

theorem readModes_keyframe (keyframe : ctx.keyframe = true) (g h : Grid rows cols)
    (r : BoolReader) :
    (g.readModes ctx).read r = (h.readModes ctx).read r ∧
      ∀ y x, (((g.readModes ctx).read r).1.get y x).reference = .current := by
  have start : SameBefore 0 0 g h := by
    intro y x before
    omega
  have rows := Coded.Related.foldlM (fun r => SameBefore r 0)
    (fun r g h same => readRow_keyframe keyframe same) start
  obtain ⟨same, reader⟩ := rows.read r
  constructor
  · apply Prod.ext
    · apply ext_get
      intro y x
      exact (same y x (.inl y.isLt)).1
    · exact reader
  · intro y x
    exact (same y x (.inl y.isLt)).2

def AllBefore (P : Fin rows → Fin cols → Macroblock → Prop) (r c : Nat) (g : Grid rows cols) :
    Prop :=
  ∀ y x, Before r c y x → P y x (g.get y x)

/-- A grid of which the macroblocks before a position have been read. -/
structure Halfway (P Q : Fin rows → Fin cols → Macroblock → Prop) (r c : Nat)
    (g : Grid rows cols) : Prop where
  before : AllBefore P r c g
  behind : ∀ y x, ¬ Before r c y x → Q y x (g.get y x)

section Loop

variable {P Q : Fin rows → Fin cols → Macroblock → Prop} {g : Grid rows cols}

theorem AllBefore.start (P : Fin rows → Fin cols → Macroblock → Prop) (g : Grid rows cols) :
    AllBefore P 0 0 g := by
  intro y x before
  omega

theorem AllBefore.set {r : Fin rows} {c : Fin cols} (all : AllBefore P r c g) {m : Macroblock}
    (holds : P r c m) : AllBefore P r (c + 1) (g.set r c m) := by
  intro y x before
  rw [get_set]
  split
  · rename_i here
    rw [← here.1, ← here.2]
    exact holds
  · rename_i other
    exact all y x (before.passed.resolve_left other)

theorem AllBefore.next {r : Nat} (all : AllBefore P r cols g) : AllBefore P (r + 1) 0 g := by
  intro y x before
  have := x.isLt
  exact all y x (by omega)

theorem Halfway.set {r : Fin rows} {c : Fin cols} (halfway : Halfway P Q r c g) {m : Macroblock}
    (holds : P r c m) : Halfway P Q r (c + 1) (g.set r c m) where
  before := halfway.before.set holds
  behind y x behind := by
    rw [get_set, if_neg]
    · apply halfway.behind
      omega
    · rintro ⟨rfl, rfl⟩
      omega

theorem Halfway.next {r : Nat} (halfway : Halfway P Q r cols g) : Halfway P Q (r + 1) 0 g where
  before := halfway.before.next
  behind y x behind := halfway.behind y x (by omega)

/-- A macroblock is read over the one in its place, which has not been touched before. -/
theorem readModes_replaces
    (each : ∀ (g : Grid rows cols) r c,
      Q r c (g.get r c) → (Macroblock.read ctx g r c).Yields (P r c))
    {g : Grid rows cols} (old : ∀ y x, Q y x (g.get y x)) :
    (g.readModes ctx).Yields fun g => ∀ y x, P y x (g.get y x) := by
  have row (r : Fin rows) (g : Grid rows cols) (halfway : Halfway P Q r 0 g) :
      (g.readRow ctx r).Yields (Halfway P Q (r + 1) 0) := by
    apply (Coded.Yields.foldlM (Halfway P Q r) _ halfway).mono fun g halfway => halfway.next
    intro c g halfway
    have untouched := halfway.behind r c (by omega)
    exact (each g r c untouched).bind fun m holds => halfway.set holds
  have start : Halfway P Q 0 0 g := ⟨.start P g, fun y x _ => old y x⟩
  have rows := Coded.Yields.foldlM (fun r => Halfway P Q r 0) row start
  exact rows.mono fun g halfway y x => halfway.before y x (.inl y.isLt)

theorem readModes_yields {P : Macroblock → Prop}
    (each : ∀ (g : Grid rows cols) r c, (Macroblock.read ctx g r c).Yields P)
    (g : Grid rows cols) : (g.readModes ctx).Yields fun g => ∀ y x, P (g.get y x) :=
  readModes_replaces (P := fun _ _ => P) (Q := fun _ _ _ => True) (fun g r c _ => each g r c)
    fun _ _ => trivial

end Loop

end Grid

namespace Macroblock

variable {rows cols : Nat}

/-- The mode without motion comes with a vector of zero, which needs no limit. -/
def Resting (m : Macroblock) : Prop := m.mode = .zero → m.vector = .zero ∧ m.needsClamp = false

theorem readIntra_yields {m : Macroblock} {P : Macroblock → Prop}
    (each : ∀ mode subblockModes chromaMode, P { m with mode, subblockModes, chromaMode })
    (luma : Coded Nat) (subblocks : Coded (Vector SubblockMode 16)) (chroma : Coded Nat) :
    (m.readIntra luma subblocks chroma).Yields P := by
  unfold readIntra
  apply Coded.Yields.after
  intro leaf
  dsimp only
  split
  all_goals
    apply Coded.Yields.after
    intro modes
    apply Coded.Yields.after
    intro chromaLeaf
    exact each _ _ _

theorem readInter_resting {m : Macroblock} (unlimited : m.needsClamp = false) (ctx : ModeContext)
    (g : Grid rows cols) (r : Fin rows) (c : Fin cols) :
    (m.readInter ctx g r c).Yields Resting := by
  unfold readInter
  apply Coded.Yields.after
  intro reference
  apply Coded.Yields.after
  intro leaf
  dsimp only
  cases mode : Mode.ofInterLeaf leaf with
  | new =>
    apply Coded.Yields.after
    intro v
    exact nofun
  | split =>
    dsimp only
    unfold readSplit
    apply Coded.Yields.after
    intro split
    apply Coded.Yields.after
    intro vectors
    exact nofun
  | nearest | near => exact nofun
  | _ => exact fun _ => ⟨rfl, unlimited⟩

theorem read_resting (ctx : ModeContext) (g : Grid rows cols) (r : Fin rows) (c : Fin cols) :
    (read ctx g r c).Yields Resting := by
  unfold read
  apply Coded.Yields.after
  intro segment
  apply Coded.Yields.after
  intro skipped
  dsimp only
  split
  · exact readIntra_yields (fun _ _ _ _ => ⟨rfl, rfl⟩) _ _ _
  · apply Coded.Yields.after
    intro inter
    split
    · exact readInter_resting rfl ctx g r c
    · exact readIntra_yields (fun _ _ _ _ => ⟨rfl, rfl⟩) _ _ _

end Macroblock

end Vp8
