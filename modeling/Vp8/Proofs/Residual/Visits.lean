import Vp8.Proofs.Entropy.Coded
import Vp8.Proofs.Lattice
import Vp8.Proofs.Macroblock.Modes
import Vp8.Proofs.Table
import Vp8.Residual.Context

/-!
Reading blocks and noting, for each of them, the context it is read in and whether it has any token.
A macroblock is read as it is without the notes, and the notes tell all about the flags along its
edges.
-/
namespace Vp8

theorem BlockGrid.set_zero {n : Nat} (y x : Fin n) :
    (BlockGrid.zero n).set y x .zero = .zero n := by
  have row : (BlockGrid.zero n).get y = .replicate n .zero := get_replicate _ y
  have entry := replaceAt_get (.replicate n Block.zero) x
  rw [get_replicate] at entry
  have grid := replaceAt_get (BlockGrid.zero n) y
  rw [row] at grid
  unfold set
  rw [row, entry, grid]

theorem Block.read_blank (probs : BandProbs) (context : Fin 3) (first : Fin 17) :
    (Block.read probs context first).Yields fun read => read.2 = false → read.1 = .zero := by
  unfold Block.read
  apply Coded.Yields.after
  intro more
  split
  · apply Coded.Yields.after
    intro block tokens
    cases tokens
  · exact fun _ => rfl

structure Visit where
  context : Fin 3
  coded : Bool
  deriving DecidableEq, Repr

abbrev Visits (n : Nat) := Fin n → Fin n → Visit

namespace Visits

variable {n : Nat}

def set (v : Visits n) (y x : Fin n) (visit : Visit) : Visits n :=
  fun j i => if j = y ∧ i = x then visit else v j i

theorem set_other {y x j i : Fin n} (other : ¬ (j = y ∧ i = x)) (v : Visits n) (visit : Visit) :
    v.set y x visit j i = v j i :=
  if_neg other

def Blank (v : Visits n) : Prop := ∀ y x, (v y x).coded = false

def transposed (v : Visits n) : Visits n := fun y x => v x y

/-- Whether the block above row `y` had tokens; above the first row, an edge tells. -/
def above (v : Visits n) (edge : Vector Bool n) (y : Nat) (x : Fin n) : Bool :=
  if h : 0 < y ∧ y ≤ n then (v ⟨y - 1, prior_inside h⟩ x).coded else edge.get x

def left (v : Visits n) (edge : Vector Bool n) (y : Fin n) (x : Nat) : Bool :=
  v.transposed.above edge x y

/-- Every block is read in the context of its neighbours in the macroblock or along its edges. -/
def InContext (v : Visits n) (above left : Vector Bool n) : Prop :=
  ∀ y x, (v y x).context = neighbourContext (v.above above y x) (v.left left y x)

def bottom (v : Visits (n + 1)) : Vector Bool (n + 1) := .ofFn fun x => (v (Fin.last n) x).coded

def right (v : Visits (n + 1)) : Vector Bool (n + 1) := v.transposed.bottom

theorem get_bottom (v : Visits (n + 1)) (x : Fin (n + 1)) :
    v.bottom.get x = (v (Fin.last n) x).coded :=
  Vector.getElem_ofFn x.isLt

theorem Blank.bottom {v : Visits (n + 1)} (blank : v.Blank) :
    v.bottom = .replicate (n + 1) false := by
  apply ext_get
  intro x
  rw [get_bottom, get_replicate]
  exact blank _ _

theorem Blank.right {v : Visits (n + 1)} (blank : v.Blank) :
    v.right = .replicate (n + 1) false :=
  Blank.bottom (v := v.transposed) fun y x => blank x y

theorem above_last (v : Visits (n + 1)) (edge : Vector Bool (n + 1)) (x : Fin (n + 1)) :
    v.above edge (n + 1) x = v.bottom.get x := by
  rw [get_bottom]
  exact dif_pos ⟨Nat.succ_pos n, Nat.le_refl _⟩

theorem above_eq (v : Visits n) (edge : Vector Bool n) (y x : Fin n) :
    v.above edge y x = if 0 < y.val then (v (prior y) x).coded else edge.get x := by
  unfold above
  by_cases inner : 0 < y.val
  · rw [dif_pos ⟨inner, y.isLt.le⟩, if_pos inner]
    rfl
  · rw [dif_neg fun inside => inner inside.1, if_neg inner]

theorem left_eq (v : Visits n) (edge : Vector Bool n) (y x : Fin n) :
    v.left edge y x = if 0 < x.val then (v y (prior x)).coded else edge.get y :=
  v.transposed.above_eq edge x y

theorem above_set (v : Visits n) (edge : Vector Bool n) (y x : Fin n) (visit : Visit) (j : Nat)
    (i : Fin n) :
    (v.set y x visit).above edge j i =
      if j = y + 1 ∧ i = x then visit.coded else v.above edge j i := by
  unfold above set
  split_ifs <;> simp_all [Fin.ext_iff]
  all_goals omega

theorem left_set (v : Visits n) (edge : Vector Bool n) (y x : Fin n) (visit : Visit) (j : Fin n)
    (i : Nat) :
    (v.set y x visit).left edge j i =
      if j = y ∧ i = x + 1 then visit.coded else v.left edge j i := by
  have turned : (v.set y x visit).transposed = v.transposed.set x y visit := by
    funext j i
    simp only [transposed, set, and_comm]
  unfold left
  rw [turned, above_set]
  simp only [and_comm]

end Visits

namespace PlaneBlocks

variable {n : Nat}

def traceBlock (probs : BandProbs) (first : Fin 17) (y : Fin n) (s : PlaneBlocks n × Visits n)
    (x : Fin n) : Coded (PlaneBlocks n × Visits n) := do
  let context := neighbourContext (s.1.above.get x) (s.1.left.get y)
  let (block, coded) ← Block.read probs context first
  let plane := {
    blocks := s.1.blocks.set y x block
    above := replaceAt s.1.above x coded
    left := replaceAt s.1.left y coded
    coded := s.1.coded || coded }
  return (plane, s.2.set y x ⟨context, coded⟩)

def trace (probs : BandProbs) (first : Fin 17) (above left : Vector Bool n) :
    Coded (PlaneBlocks n × Visits n) :=
  (List.finRange n).foldlM
    (fun s y => (List.finRange n).foldlM (traceBlock probs first y) s)
    ({ blocks := .zero n, above, left, coded := false }, fun _ _ => ⟨0, false⟩)

theorem trace_related (probs : BandProbs) (first : Fin 17) (above left : Vector Bool n) :
    Coded.Related (fun s p => s.1 = p) (trace probs first above left)
      (read probs first above left) := by
  unfold trace read
  apply Coded.Related.foldlM (fun _ (s : PlaneBlocks n × Visits n) p => s.1 = p) _ rfl
  rintro y s _ rfl
  apply Coded.Related.foldlM (fun _ (s : PlaneBlocks n × Visits n) p => s.1 = p) _ rfl
  rintro x s _ rfl
  apply Coded.Related.bind_same
  intro block
  exact .value rfl

/-- In front of the block at a position, the flags are those of the blocks read last in every row
    and column, or still those along the edges of the macroblock. -/
structure Tracing (upper leftward : Vector Bool n) (r c : Nat) (s : PlaneBlocks n × Visits n) :
    Prop where
  above : ∀ x : Fin n, s.1.above.get x = s.2.above upper (if x.val < c then r + 1 else r) x
  left : ∀ y : Fin n,
    s.1.left.get y = s.2.left leftward y (if y.val < r then n else if y.val = r then c else 0)
  contexts : ∀ y x : Fin n, Grid.Before r c y x →
    (s.2 y x).context = neighbourContext (s.2.above upper y x) (s.2.left leftward y x)
  coded : ∀ y x : Fin n, Grid.Before r c y x → (s.2 y x).coded = true → s.1.coded = true
  blank : s.1.coded = false → s.1.blocks = .zero n

namespace Tracing

variable {upper leftward : Vector Bool n} {s : PlaneBlocks n × Visits n}

theorem start (upper leftward : Vector Bool n) (v : Visits n) :
    Tracing upper leftward 0 0
      ({ blocks := .zero n, above := upper, left := leftward, coded := false }, v) where
  above x := by simp [Visits.above]
  left y := by simp [Visits.left, Visits.above]
  contexts y x before := by omega
  coded y x before := by omega
  blank _ := rfl

theorem block {r c : Fin n} (tracing : Tracing upper leftward r c s) {block : Block}
    {coded : Bool} (blank : coded = false → block = .zero) :
    let context := neighbourContext (s.1.above.get c) (s.1.left.get r)
    Tracing upper leftward r (c + 1)
      ({ blocks := s.1.blocks.set r c block
         above := replaceAt s.1.above c coded
         left := replaceAt s.1.left r coded
         coded := s.1.coded || coded }, s.2.set r c ⟨context, coded⟩) where
  above x := by
    simp only [get_replaceAt, Visits.above_set, tracing.above, Fin.ext_iff]
    split_ifs <;> first | rfl | omega
  left y := by
    simp only [get_replaceAt, Visits.left_set, tracing.left, Fin.ext_iff]
    split_ifs <;> first | rfl | omega
  contexts y x before := by
    rw [Visits.above_set, Visits.left_set, if_neg (by omega), if_neg (by omega)]
    rcases before.passed with ⟨rfl, rfl⟩ | before
    · simp [Visits.set, tracing.above, tracing.left]
    · rw [← tracing.contexts y x before]
      simp only [Visits.set_other before.other]
  coded y x before := by
    rcases before.passed with ⟨rfl, rfl⟩ | before
    · simp +contextual [Visits.set]
    · intro found
      simp only [Visits.set_other before.other] at found
      simp [tracing.coded y x before found]
  blank none := by
    simp only [Bool.or_eq_false_iff] at none
    simp only [tracing.blank none.1, blank none.2, BlockGrid.set_zero]

theorem next {r : Nat} (tracing : Tracing upper leftward r n s) :
    Tracing upper leftward (r + 1) 0 s where
  above x := by simp [tracing.above]
  left y := by
    simp only [tracing.left]
    split_ifs <;> first | rfl | omega
  contexts y x before := tracing.contexts y x (by omega)
  coded y x before := tracing.coded y x (by omega)
  blank := tracing.blank

end Tracing

structure Traced (upper leftward : Vector Bool (n + 1))
    (s : PlaneBlocks (n + 1) × Visits (n + 1)) : Prop where
  contexts : s.2.InContext upper leftward
  above : s.1.above = s.2.bottom
  left : s.1.left = s.2.right
  coded : ∀ y x, (s.2 y x).coded = true → s.1.coded = true
  blank : s.1.coded = false → s.1.blocks = .zero (n + 1)

theorem Traced.visits_blank {upper leftward : Vector Bool (n + 1)}
    {s : PlaneBlocks (n + 1) × Visits (n + 1)} (traced : Traced upper leftward s)
    (none : s.1.coded = false) : s.2.Blank := by
  intro y x
  cases found : (s.2 y x).coded with
  | false => rfl
  | true => rw [traced.coded y x found] at none; cases none

theorem trace_yields (probs : BandProbs) (first : Fin 17) (upper leftward : Vector Bool (n + 1)) :
    (trace probs first upper leftward).Yields (Traced upper leftward) := by
  have row (y : Fin (n + 1)) (s : PlaneBlocks (n + 1) × Visits (n + 1))
      (tracing : Tracing upper leftward y 0 s) :
      ((List.finRange (n + 1)).foldlM (traceBlock probs first y) s).Yields
        (Tracing upper leftward (y + 1) 0) := by
    apply (Coded.Yields.foldlM (Tracing upper leftward y) _ tracing).mono
      fun s tracing => tracing.next
    intro x s tracing
    apply (Block.read_blank probs _ first).bind
    intro read blank
    exact tracing.block blank
  apply (Coded.Yields.foldlM (fun y => Tracing upper leftward y 0) row (.start _ _ _)).mono
  intro s tracing
  constructor
  · intro y x
    exact tracing.contexts y x (by omega)
  · apply ext_get
    intro x
    rw [tracing.above, if_neg x.val.not_lt_zero, Visits.above_last]
  · apply ext_get
    intro y
    rw [tracing.left, if_pos y.isLt]
    exact s.2.transposed.above_last leftward y
  · intro y x
    exact tracing.coded y x (by omega)
  · exact tracing.blank

end PlaneBlocks

namespace EdgeFlags

/-- The flags along an edge behind another macroblock. Without a second-order block it tells
    nothing about those. -/
def next (e : EdgeFlags) (hasSecond : Bool) (edge : EdgeFlags) : EdgeFlags :=
  { edge with second := if hasSecond then edge.second else e.second }

/-- A macroblock without tokens counts as one whose blocks have none. -/
theorem clear_eq (e : EdgeFlags) (hasSecond : Bool) :
    e.clear hasSecond = e.next hasSecond .none := by
  cases hasSecond <;> rfl

end EdgeFlags

structure MacroblockVisits where
  second : Option Visit
  luma : Visits 4
  cb : Visits 2
  cr : Visits 2

namespace MacroblockVisits

def bottom (v : MacroblockVisits) : EdgeFlags :=
  ⟨v.luma.bottom, v.cb.bottom, v.cr.bottom, v.second.any (·.coded)⟩

def right (v : MacroblockVisits) : EdgeFlags :=
  ⟨v.luma.right, v.cb.right, v.cr.right, v.second.any (·.coded)⟩

end MacroblockVisits

namespace MacroblockTokens

def traceSecond (probs : CoefficientProbs) (hasSecond above left : Bool) :
    Coded ((Block × Bool) × Option Visit) :=
  if hasSecond then do
    let context := neighbourContext above left
    let (block, coded) ← Block.read (probs.get BlockType.second.index) context 0
    return ((block, coded), some ⟨context, coded⟩)
  else return ((.zero, false), none)

def traceLuma (probs : CoefficientProbs) (hasSecond : Bool) (above left : Vector Bool 4) :
    Coded (PlaneBlocks 4 × Visits 4) :=
  if hasSecond then PlaneBlocks.trace (probs.get BlockType.lumaWithoutDc.index) 1 above left
  else PlaneBlocks.trace (probs.get BlockType.lumaWithDc.index) 0 above left

def trace (probs : CoefficientProbs) (hasSecond : Bool) (above left : EdgeFlags) :
    Coded (MacroblockTokens × MacroblockVisits) := do
  let ((second, secondCoded), secondVisit) ← traceSecond probs hasSecond above.second left.second
  let (luma, lumaVisits) ← traceLuma probs hasSecond above.luma left.luma
  let (cb, cbVisits) ← PlaneBlocks.trace (probs.get BlockType.chroma.index) 0 above.cb left.cb
  let (cr, crVisits) ← PlaneBlocks.trace (probs.get BlockType.chroma.index) 0 above.cr left.cr
  return ({
    coefficients := ⟨second, luma.blocks, cb.blocks, cr.blocks⟩
    above := ⟨luma.above, cb.above, cr.above, if hasSecond then secondCoded else above.second⟩
    left := ⟨luma.left, cb.left, cr.left, if hasSecond then secondCoded else left.second⟩
    coded := secondCoded || luma.coded || cb.coded || cr.coded },
    ⟨secondVisit, lumaVisits, cbVisits, crVisits⟩)

structure Traced (hasSecond : Bool) (above left : EdgeFlags)
    (s : MacroblockTokens × MacroblockVisits) : Prop where
  second : s.2.second.isSome = hasSecond
  secondContext : ∀ visit ∈ s.2.second, visit.context = neighbourContext above.second left.second
  luma : s.2.luma.InContext above.luma left.luma
  cb : s.2.cb.InContext above.cb left.cb
  cr : s.2.cr.InContext above.cr left.cr
  above : s.1.above = above.next hasSecond s.2.bottom
  left : s.1.left = left.next hasSecond s.2.right
  blank : s.1.coded = false → s.1.coefficients = .zero ∧ s.2.bottom = .none ∧ s.2.right = .none

theorem traceSecond_related (probs : CoefficientProbs) (hasSecond above left : Bool) :
    Coded.Related (fun s p => s.1 = p) (traceSecond probs hasSecond above left)
      (readSecond probs hasSecond above left) := by
  cases hasSecond with
  | false => exact .value rfl
  | true =>
    apply Coded.Related.bind_value
    intro block
    rfl

theorem traceLuma_related (probs : CoefficientProbs) (hasSecond : Bool)
    (above left : Vector Bool 4) :
    Coded.Related (fun s p => s.1 = p) (traceLuma probs hasSecond above left)
      (readLuma probs hasSecond above left) := by
  cases hasSecond with
  | false => exact PlaneBlocks.trace_related _ _ _ _
  | true => exact PlaneBlocks.trace_related _ _ _ _

theorem trace_related (probs : CoefficientProbs) (hasSecond : Bool) (above left : EdgeFlags) :
    Coded.Related (fun s t => s.1 = t) (trace probs hasSecond above left)
      (read probs hasSecond above left) := by
  unfold trace read
  apply (traceSecond_related _ _ _ _).bind
  rintro second _ rfl
  apply (traceLuma_related _ _ _ _).bind
  rintro luma _ rfl
  apply (PlaneBlocks.trace_related _ _ _ _).bind
  rintro cb _ rfl
  apply (PlaneBlocks.trace_related _ _ _ _).bind
  rintro cr _ rfl
  exact .value rfl

structure TracedSecond (hasSecond above left : Bool) (s : (Block × Bool) × Option Visit) :
    Prop where
  present : s.2.isSome = hasSecond
  context : ∀ visit ∈ s.2, visit.context = neighbourContext above left
  coded : s.2.any (·.coded) = s.1.2
  blank : s.1.2 = false → s.1.1 = .zero

theorem traceSecond_yields (probs : CoefficientProbs) (hasSecond above left : Bool) :
    (traceSecond probs hasSecond above left).Yields (TracedSecond hasSecond above left) := by
  cases hasSecond with
  | false => exact ⟨rfl, by simp, rfl, fun _ => rfl⟩
  | true =>
    apply (Block.read_blank _ _ _).bind
    intro read blank
    exact ⟨rfl, by simp, rfl, blank⟩

theorem traceLuma_yields (probs : CoefficientProbs) (hasSecond : Bool)
    (above left : Vector Bool 4) :
    (traceLuma probs hasSecond above left).Yields (PlaneBlocks.Traced above left) := by
  cases hasSecond with
  | false => exact PlaneBlocks.trace_yields _ _ _ _
  | true => exact PlaneBlocks.trace_yields _ _ _ _

theorem trace_yields (probs : CoefficientProbs) (hasSecond : Bool) (above left : EdgeFlags) :
    (trace probs hasSecond above left).Yields (Traced hasSecond above left) := by
  unfold trace
  apply (traceSecond_yields _ _ _ _).bind
  rintro second secondTraced
  apply (traceLuma_yields _ _ _ _).bind
  intro luma lumaTraced
  apply (PlaneBlocks.trace_yields _ _ _ _).bind
  intro cb cbTraced
  apply (PlaneBlocks.trace_yields _ _ _ _).bind
  intro cr crTraced
  constructor
  · exact secondTraced.present
  · exact secondTraced.context
  · exact lumaTraced.contexts
  · exact cbTraced.contexts
  · exact crTraced.contexts
  · simp [EdgeFlags.next, MacroblockVisits.bottom, lumaTraced.above, cbTraced.above,
      crTraced.above, secondTraced.coded]
  · simp [EdgeFlags.next, MacroblockVisits.right, lumaTraced.left, cbTraced.left, crTraced.left,
      secondTraced.coded]
  · intro none
    simp only [Bool.or_eq_false_iff] at none
    obtain ⟨⟨⟨noSecond, noLuma⟩, noCb⟩, noCr⟩ := none
    have lumaBlank := lumaTraced.visits_blank noLuma
    have cbBlank := cbTraced.visits_blank noCb
    have crBlank := crTraced.visits_blank noCr
    refine ⟨?_, ?_, ?_⟩
    · simp only [secondTraced.blank noSecond, lumaTraced.blank noLuma, cbTraced.blank noCb,
        crTraced.blank noCr]
      rfl
    · simp only [MacroblockVisits.bottom, lumaBlank.bottom, cbBlank.bottom, crBlank.bottom,
        secondTraced.coded, noSecond]
      rfl
    · simp only [MacroblockVisits.right, lumaBlank.right, cbBlank.right, crBlank.right,
        secondTraced.coded, noSecond]
      rfl

end MacroblockTokens

end Vp8
