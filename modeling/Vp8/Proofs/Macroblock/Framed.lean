import Vp8.Proofs.Macroblock.Candidates
import Vp8.Proofs.Macroblock.Modes

/-!
Reading modes in place. The macroblocks stand in one table, framed by a row above them and a column
to their left; each one is read from the four entries around its own, and overwrites that one. What
this leaves in the table is the grid that is read, with the frame around it as it was.
-/
namespace Vp8

namespace Macroblock

section Parts

variable {split : Split} {own : Vector MotionVector 16} {v : MotionVector}

theorem part_lt (split : Split) (k : Fin 16) : split.parts.get k < split.count := by
  cases split <;> revert k <;> decide

theorem part_first (split : Split) {part : Nat} (known : part < split.count) :
    split.parts.get (split.first part) = part := by
  have each : ∀ p : Fin split.count, split.parts.get (split.first p) = p := by
    cases split <;> decide
  exact each ⟨part, known⟩

theorem get_fillPart (split : Split) (part : Nat) (v : MotionVector) (own : Vector MotionVector 16)
    (k : Fin 16) :
    (fillPart split part v own).get k = if split.parts.get k = part then v else own.get k := by
  change (fillPart split part v own)[k.val] = _
  unfold fillPart
  rw [Vector.getElem_mapFinIdx]
  rfl

def Filled (split : Split) (part : Nat) (own : Vector MotionVector 16) : Prop :=
  ∀ j k, split.parts.get j < part → split.parts.get j = split.parts.get k → own.get j = own.get k

theorem Filled.next {part : Nat} (filled : Filled split part own) (v : MotionVector) :
    Filled split (part + 1) (fillPart split part v own) := by
  intro j k before same
  rw [get_fillPart, get_fillPart, ← same]
  split
  · rfl
  · exact filled j k (by omega) same

/-- The vectors of a split macroblock, with a mark that is set as soon as the vector of a part
    points out of reach. -/
def readMarkedParts (probs : VectorProbs) (best : MotionVector) (split : Split) (reach : Reach)
    (above left : Vector MotionVector 16) : Coded (Vector MotionVector 16 × Bool) :=
  (List.range split.count).foldlM (fun (own, marked) part => do
    let k := split.first part
    let v ← readPartVector probs best (leftOf left own k) (aboveOf above own k)
    return (fillPart split part v own, marked || reach.outside v)) (.replicate 16 .zero, false)

def Marks (split : Split) (reach : Reach) (part : Nat) (own : Vector MotionVector 16)
    (marked : Bool) : Prop :=
  marked = true ↔ ∃ k, split.parts.get k < part ∧ reach.outside (own.get k) = true

theorem Marks.next {reach : Reach} {part : Nat} {marked : Bool}
    (marks : Marks split reach part own marked) (known : part < split.count) (v : MotionVector) :
    Marks split reach (part + 1) (fillPart split part v own) (marked || reach.outside v) := by
  unfold Marks at marks ⊢
  rw [Bool.or_eq_true, marks]
  constructor
  · rintro (⟨k, before, outside⟩ | outside)
    · refine ⟨k, by omega, ?_⟩
      rwa [get_fillPart, if_neg (by omega)]
    · refine ⟨split.first part, by rw [part_first split known]; omega, ?_⟩
      rwa [get_fillPart, if_pos (part_first split known)]
  · rintro ⟨k, before, outside⟩
    rw [get_fillPart] at outside
    split at outside
    · exact .inr outside
    · exact .inl ⟨k, by omega, outside⟩

theorem readParts_filled (probs : VectorProbs) (best : MotionVector) (split : Split)
    (above left : Vector MotionVector 16) :
    (readParts probs best split above left).Yields (Filled split split.count) := by
  unfold readParts
  rw [foldlM_range]
  apply Coded.Yields.foldlM (Filled split)
  · intro part own filled
    apply Coded.Yields.after
    intro v
    exact filled.next v
  · intro j k before
    contradiction

/-- Every sub-block is in some part, so that the mark tells whether any vector points out of
    reach. -/
theorem readMarkedParts_related (probs : VectorProbs) (best : MotionVector) (split : Split)
    (reach : Reach) (above left : Vector MotionVector 16) :
    Coded.Related (fun x (own : Vector MotionVector 16) => x = (own, own.any reach.outside))
      (readMarkedParts probs best split reach above left)
      (readParts probs best split above left) := by
  unfold readMarkedParts readParts
  rw [foldlM_range, foldlM_range]
  refine (Coded.Related.foldlM
    (fun part x (own : Vector MotionVector 16) => x.1 = own ∧ Marks split reach part own x.2)
    ?_ ⟨rfl, by simp [Marks]⟩).mono ?_
  · rintro part ⟨_, marked⟩ own ⟨rfl, marks⟩
    apply Coded.Related.bind_same
    intro v
    exact .value ⟨rfl, marks.next part.isLt v⟩
  · rintro ⟨_, marked⟩ own ⟨rfl, marks⟩
    refine Prod.ext rfl (Bool.eq_iff_iff.mpr (marks.trans ?_))
    rw [Vector.any_eq_true]
    constructor
    · rintro ⟨k, _, outside⟩
      exact ⟨k.val, k.isLt, outside⟩
    · rintro ⟨k, lt, outside⟩
      exact ⟨⟨k, lt⟩, part_lt split ⟨k, lt⟩, outside⟩

end Parts

theorem splitTree_fits : Split.tree.Fits 3 0 := by decide

def readMarkedSplit (m : Macroblock) (probs : VectorProbs) (best : MotionVector) (reach : Reach)
    (above left : Macroblock) : Coded Macroblock := do
  let split := Split.ofLeaf (← Split.tree.read Split.probs 0 splitTree_fits)
  let (vectors, needsClamp) ← readMarkedParts probs best split reach above.vectors left.vectors
  return { m with split, vectors, vector := vectors.get 15, needsClamp }

theorem readMarkedSplit_eq (m : Macroblock) (probs : VectorProbs) (best : MotionVector)
    (reach : Reach) (above left : Macroblock) :
    m.readMarkedSplit probs best reach above left = m.readSplit probs best reach above left := by
  apply Coded.Related.eq
  apply Coded.Related.bind_same
  intro leaf
  apply (readMarkedParts_related probs best _ reach above.vectors left.vectors).bind
  rintro _ own rfl
  exact .value rfl

theorem interTree_fits : Mode.interTree.Fits 4 0 := by decide

def readInterAmong (m : Macroblock) (ctx : ModeContext) (reach : Reach)
    (above left aboveLeft : Macroblock) : Coded Macroblock := do
  let reference ← readReference ctx.header
  let candidates := Candidates.search ctx.header.signBias reference
    [(above, 2), (left, 2), (aboveLeft, 1)]
  let best := reach.clamp candidates.best
  let mode := Mode.ofInterLeaf (← Mode.interTree.read candidates.modeProbs 0 interTree_fits)
  let m := { m with reference, mode }
  match mode with
  | .nearest => return m.withVector (reach.clamp candidates.nearest)
  | .near => return m.withVector (reach.clamp candidates.near)
  | .new =>
    let v ← readNewVector ctx.entropy.vectors best
    return { m.withVector v with needsClamp := reach.outside v }
  | .split => m.readMarkedSplit ctx.entropy.vectors best reach above left
  | _ => return m.withVector .zero

def readAmong (ctx : ModeContext) (reach : Reach) (old above left aboveLeft : Macroblock) :
    Coded Macroblock := do
  let segment ← readSegment ctx old.segment
  let skipped ← readSkipped ctx
  let m := { Macroblock.default with segment, skipped }
  if ctx.keyframe then m.readKeyframeIntra above left
  else if ← Coded.bool ctx.header.intraProb then m.readInterAmong ctx reach above left aboveLeft
  else m.readInterIntra ctx.entropy

theorem readAmong_eq {rows cols : Nat} (ctx : ModeContext) (g : Grid rows cols) (r : Fin rows)
    (c : Fin cols) :
    readAmong ctx (.ofPosition r c rows cols) (g.get r c) (g.above r c) (g.left r c)
      (g.aboveLeft r c) = read ctx g r c := by
  have inter (m : Macroblock) : m.readInterAmong ctx (.ofPosition r c rows cols) (g.above r c)
      (g.left r c) (g.aboveLeft r c) = m.readInter ctx g r c := by
    unfold readInterAmong readInter
    simp only [readMarkedSplit_eq]
    rfl
  unfold readAmong read
  simp only [inter]

end Macroblock

abbrev Framed (rows cols : Nat) := Vector Macroblock ((rows + 1) * (cols + 1))

namespace Framed

variable {rows cols : Nat}

def cell (r : Fin rows) (c : Fin cols) : Fin ((rows + 1) * (cols + 1)) :=
  ⟨Grid.place cols r c, Grid.table_lt (u := r + 1) (v := c + 1) (by omega) (by omega)⟩

def before (t : Framed rows cols) (r : Fin rows) (c : Fin cols) (back : Nat) : Macroblock :=
  t.get ⟨(cell r c).val - back, Nat.lt_of_le_of_lt (Nat.sub_le ..) (cell r c).isLt⟩

def readCell (ctx : ModeContext) (t : Framed rows cols) (r : Fin rows) (c : Fin cols) :
    Coded (Framed rows cols) := do
  let m ← Macroblock.readAmong ctx (.ofPosition r c rows cols) (t.before r c 0)
    (t.before r c (cols + 1)) (t.before r c 1) (t.before r c (cols + 2))
  return replaceAt t (cell r c) m

def readRow (ctx : ModeContext) (t : Framed rows cols) (r : Fin rows) : Coded (Framed rows cols) :=
  (List.finRange cols).foldlM (fun t c => readCell ctx t r c) t

def readModes (ctx : ModeContext) (t : Framed rows cols) : Coded (Framed rows cols) :=
  (List.finRange rows).foldlM (readRow ctx) t

/-- The first row and the first column hold default macroblocks. -/
def Bordered (t : Framed rows cols) : Prop :=
  ∀ i, i.val / (cols + 1) = 0 ∨ i.val % (cols + 1) = 0 → t.get i = .default

theorem table_bordered (g : Grid rows cols) : Bordered g.table := by
  intro i outer
  change g.table[i.val] = .default
  unfold Grid.table
  rw [Vector.getElem_ofFn]
  dsimp only
  exact if_neg (by omega)

theorem before_table {g : Grid rows cols} {r : Fin rows} {c : Fin cols} {back : Nat}
    {m : Macroblock} (there : g.before? r c back = some m) : before g.table r c back = m := by
  unfold Grid.before? at there
  split at there
  · obtain ⟨_, same⟩ := Vector.getElem?_eq_some_iff.mp there
    exact same
  · contradiction

theorem cell_eq_iff (r : Fin rows) (c : Fin cols) (i : Fin ((rows + 1) * (cols + 1))) :
    cell r c = i ↔ i.val / (cols + 1) = r + 1 ∧ i.val % (cols + 1) = c + 1 := by
  have product : (cols + 1) * (r.val + 1) = (r + 1) * (cols + 1) := Nat.mul_comm _ _
  rw [Nat.div_mod_unique (Nat.succ_pos cols), Fin.ext_iff, Nat.succ_eq_add_one, product]
  unfold cell Grid.place
  dsimp only
  omega

theorem at?_set (g : Grid rows cols) (r : Fin rows) (c : Fin cols) (m : Macroblock) (y x : Nat) :
    (g.set r c m).at? y x = if r.val = y ∧ c.val = x then some m else g.at? y x := by
  unfold Grid.at?
  split
  · rw [Grid.get_set]
    simp only [Fin.ext_iff]
    split <;> rfl
  · rename_i outside
    exact (if_neg (by omega)).symm

theorem table_set (g : Grid rows cols) (r : Fin rows) (c : Fin cols) (m : Macroblock) :
    (g.set r c m).table = replaceAt g.table (cell r c) m := by
  apply ext_get
  intro i
  rw [get_replaceAt]
  simp only [cell_eq_iff]
  change (g.set r c m).table[i.val] = if _ then m else g.table[i.val]
  unfold Grid.table
  rw [Vector.getElem_ofFn, Vector.getElem_ofFn]
  simp only [at?_set]
  by_cases here : i.val / (cols + 1) = r + 1 ∧ i.val % (cols + 1) = c + 1
  · simp [here]
  · by_cases inner : 0 < i.val / (cols + 1) ∧ 0 < i.val % (cols + 1)
    · have other : ¬ (r.val = i.val / (cols + 1) - 1 ∧ c.val = i.val % (cols + 1) - 1) := by omega
      simp only [here, inner, other, if_false, and_self, if_true]
    · simp only [here, inner, if_false]

theorem readCell_related (ctx : ModeContext) (g : Grid rows cols) (r : Fin rows) (c : Fin cols) :
    Coded.Related (fun t (g : Grid rows cols) => t = g.table) (readCell ctx g.table r c)
      (do return g.set r c (← Macroblock.read ctx g r c)) := by
  unfold readCell
  rw [before_table (g.get?_eq r c), before_table (g.above?_eq r c), before_table (g.left?_eq r c),
    before_table (g.aboveLeft?_eq r c), Macroblock.readAmong_eq]
  apply Coded.Related.bind_same
  intro m
  exact .value (table_set g r c m).symm

/-- Reading in place leaves the grid that is read, and the frame around it as it was. -/
theorem readModes_related (ctx : ModeContext) (g : Grid rows cols) :
    Coded.Related (fun t (g : Grid rows cols) => t = g.table) (readModes ctx g.table)
      (g.readModes ctx) := by
  apply Coded.Related.foldlM (fun _ t (g : Grid rows cols) => t = g.table) _ rfl
  rintro r _ g rfl
  apply Coded.Related.foldlM (fun _ t (g : Grid rows cols) => t = g.table) _ rfl
  rintro c _ g rfl
  exact readCell_related ctx g r c

end Framed

end Vp8
