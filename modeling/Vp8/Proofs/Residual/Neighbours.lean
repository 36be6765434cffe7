import Vp8.Proofs.Lattice
import Vp8.Proofs.Residual.Visits

/-!
The contexts of all blocks of a picture. The flags that are kept along the edges stand for the blocks
around: those next to a block, of whatever macroblock they are, and for a second-order block the
nearest ones in its row and its column of macroblocks.
-/
namespace Vp8

theorem neighbourContext_val (above left : Bool) :
    (neighbourContext above left).val = above.toNat + left.toNat := by
  cases above <;> cases left <;> rfl

/-- What happens at a macroblock: tokens are read with some probabilities from some partition, or
    there are none. -/
structure TokenStep where
  hasSecond : Bool
  source : Option (CoefficientProbs × BoolReader)

namespace TokenContext

variable {rows cols : Nat}

def step (t : TokenContext cols) (s : TokenStep) (c : Fin cols) : TokenContext cols :=
  match s.source with
  | none => t.skip c s.hasSecond
  | some (probs, reader) => ((t.read probs c s.hasSecond).read reader).1.2

def rowBefore (t : TokenContext cols) (steps : Fin cols → TokenStep) (c : Nat) (le : c ≤ cols) :
    TokenContext cols :=
  Fin.foldl c (fun t x => t.step (steps (x.castLE le)) (x.castLE le)) t.startRow

def row (t : TokenContext cols) (steps : Fin cols → TokenStep) : TokenContext cols :=
  Fin.foldl cols (fun t c => t.step (steps c) c) t.startRow

def rowsBefore (steps : Fin rows → Fin cols → TokenStep) (r : Nat) (le : r ≤ rows) :
    TokenContext cols :=
  Fin.foldl r (fun t y => t.row (steps (y.castLE le))) (blank cols)

def before (steps : Fin rows → Fin cols → TokenStep) (r : Fin rows) (c : Nat) (le : c ≤ cols) :
    TokenContext cols :=
  (rowsBefore steps r r.isLt.le).rowBefore (steps r) c le

def visits (t : TokenContext cols) (s : TokenStep) (c : Fin cols) : Option MacroblockVisits :=
  s.source.map fun (probs, reader) =>
    ((MacroblockTokens.trace probs s.hasSecond (t.above.get c) t.left).read reader).1.2

def seen (steps : Fin rows → Fin cols → TokenStep) (r : Fin rows) (c : Fin cols) :
    Option MacroblockVisits :=
  (before steps r c c.isLt.le).visits (steps r c) c

def lower (steps : Fin rows → Fin cols → TokenStep) (r : Fin rows) (c : Fin cols) : EdgeFlags :=
  (seen steps r c).elim .none (·.bottom)

def right (steps : Fin rows → Fin cols → TokenStep) (r : Fin rows) (c : Fin cols) : EdgeFlags :=
  (seen steps r c).elim .none (·.right)

end TokenContext

section Nearest

variable {n : Nat} {counts flag : Fin n → Bool}

/-- The flag of the nearest one before `k` that counts; off if there is none. -/
def nearest (counts flag : Fin n → Bool) (k : Nat) : Bool :=
  decide (∃ j : Fin n, j.val < k ∧ counts j = true ∧ flag j = true ∧
    ∀ i : Fin n, j < i → i.val < k → counts i = false)

theorem nearest_zero : nearest counts flag 0 = false := by
  simp [nearest]

theorem nearest_next (k : Fin n) :
    nearest counts flag (k + 1) = if counts k then flag k else nearest counts flag k := by
  rw [Bool.eq_iff_iff]
  cases found : counts k with
  | true =>
    simp only [nearest, decide_eq_true_eq, if_true]
    constructor
    · rintro ⟨j, before, _, on, between⟩
      rcases (Nat.lt_succ_iff.mp before).eq_or_lt with same | earlier
      · rwa [← Fin.ext same]
      · rw [between k earlier (Nat.lt_succ_self _)] at found
        cases found
    · intro on
      refine ⟨k, Nat.lt_succ_self _, found, on, ?_⟩
      intro i after before
      omega
  | false =>
    simp only [nearest, decide_eq_true_eq, Bool.false_eq_true, if_false]
    constructor
    · rintro ⟨j, before, count, on, between⟩
      have other : j ≠ k := by
        rintro rfl
        rw [found] at count
        cases count
      exact ⟨j, by omega, count, on, fun i after before => between i after (by omega)⟩
    · rintro ⟨j, before, count, on, between⟩
      refine ⟨j, by omega, count, on, ?_⟩
      intro i after before
      rcases (Nat.lt_succ_iff.mp before).eq_or_lt with same | earlier
      · rwa [Fin.ext same]
      · exact between i after earlier

def flagsBehind (hasSecond : Fin n → Bool) (edge : Fin n → EdgeFlags) (k : Nat) : EdgeFlags :=
  let last := if h : 0 < k ∧ k ≤ n then edge ⟨k - 1, prior_inside h⟩ else .none
  { last with second := nearest hasSecond (fun j => (edge j).second) k }

theorem flagsBehind_zero (hasSecond : Fin n → Bool) (edge : Fin n → EdgeFlags) :
    flagsBehind hasSecond edge 0 = .none := by
  simp [flagsBehind, nearest_zero, EdgeFlags.none]

theorem flagsBehind_next (hasSecond : Fin n → Bool) (edge : Fin n → EdgeFlags) (k : Fin n) :
    flagsBehind hasSecond edge (k + 1) =
      (flagsBehind hasSecond edge k).next (hasSecond k) (edge k) := by
  have inside : k.val + 1 ≤ n := k.isLt
  simp [flagsBehind, EdgeFlags.next, nearest_next, inside]

end Nearest

namespace TokenContext

variable {rows cols : Nat}

theorem step_eq (t : TokenContext cols) (s : TokenStep) (c : Fin cols) :
    t.step s c =
      ⟨replaceAt t.above c
          ((t.above.get c).next s.hasSecond ((t.visits s c).elim .none (·.bottom))),
        t.left.next s.hasSecond ((t.visits s c).elim .none (·.right))⟩ := by
  obtain ⟨hasSecond, _ | ⟨probs, reader⟩⟩ := s
  · simp only [step, skip, visits, EdgeFlags.clear_eq, Option.map_none, Option.elim_none]
  · have traced :=
      (MacroblockTokens.trace_yields probs hasSecond (t.above.get c) t.left).read reader
    have same :=
      ((MacroblockTokens.trace_related probs hasSecond (t.above.get c) t.left).read reader).1
    simp only [step, read, visits, Coded.read_bind, ← same, Option.map_some, Option.elim_some]
    rw [← traced.above, ← traced.left]
    rfl

variable (steps : Fin rows → Fin cols → TokenStep)

theorem before_next (r : Fin rows) (c : Fin cols) :
    before steps r (c + 1) c.isLt = (before steps r c c.isLt.le).step (steps r c) c := by
  unfold before rowBefore
  rw [Fin.foldl_succ_last]
  rfl

theorem rowsBefore_next (r : Fin rows) :
    rowsBefore steps (r + 1) r.isLt = before steps r cols le_rfl := by
  unfold rowsBefore
  rw [Fin.foldl_succ_last]
  rfl

def column (c : Fin cols) : Nat → EdgeFlags :=
  flagsBehind (fun r => (steps r c).hasSecond) fun r => lower steps r c

def line (r : Fin rows) : Nat → EdgeFlags :=
  flagsBehind (fun c => (steps r c).hasSecond) fun c => right steps r c

theorem column_next (r : Fin rows) (c : Fin cols) :
    column steps c (r + 1) =
      (column steps c r).next (steps r c).hasSecond (lower steps r c) :=
  flagsBehind_next _ _ r

theorem line_next (r : Fin rows) (c : Fin cols) :
    line steps r (c + 1) = (line steps r c).next (steps r c).hasSecond (right steps r c) :=
  flagsBehind_next _ _ c

theorem before_left (r : Fin rows) (c : Nat) (le : c ≤ cols) :
    (before steps r c le).left = line steps r c := by
  induction c with
  | zero => exact (flagsBehind_zero _ _).symm
  | succ c ih =>
    rw [before_next steps r ⟨c, le⟩, step_eq, line_next steps r ⟨c, le⟩, ← ih]
    rfl

theorem before_above (r : Fin rows)
    (start : ∀ x, (rowsBefore steps r r.isLt.le).above.get x = column steps x r) (c : Nat)
    (le : c ≤ cols) (x : Fin cols) :
    (before steps r c le).above.get x = column steps x (if x.val < c then r + 1 else r) := by
  induction c with
  | zero => exact start x
  | succ c ih =>
    rw [before_next steps r ⟨c, le⟩, step_eq, get_replaceAt]
    split
    · rename_i here
      subst here
      have above := ih (Nat.le_of_succ_le le)
      rw [if_neg (lt_irrefl c)] at above
      rw [if_pos (Nat.lt_succ_self c), column_next, ← above]
      rfl
    · rename_i other
      have apart : c ≠ x.val := fun same => other (Fin.ext same)
      rw [ih]
      congr 1
      split_ifs <;> omega

theorem rowsBefore_above (r : Nat) (le : r ≤ rows) (x : Fin cols) :
    (rowsBefore steps r le).above.get x = column steps x r := by
  induction r generalizing x with
  | zero => exact (get_replicate _ x).trans (flagsBehind_zero _ _).symm
  | succ r ih =>
    rw [rowsBefore_next steps ⟨r, le⟩, before_above steps ⟨r, le⟩ (ih (Nat.le_of_succ_le le)),
      if_pos x.isLt]

theorem seen_traced {r : Fin rows} {c : Fin cols} {v : MacroblockVisits}
    (read : v ∈ seen steps r c) :
    ∃ tokens, MacroblockTokens.Traced (steps r c).hasSecond (column steps c r) (line steps r c)
      (tokens, v) := by
  obtain ⟨⟨probs, reader⟩, _, rfl⟩ := Option.map_eq_some_iff.mp read
  rw [← before_left steps r c c.isLt.le]
  have above := before_above steps r (rowsBefore_above steps r r.isLt.le) c c.isLt.le c
  rw [if_neg (lt_irrefl _)] at above
  rw [← above]
  exact ⟨_, (MacroblockTokens.trace_yields _ _ _ _).read reader⟩

end TokenContext

structure TokenPlane (n : Nat) where
  visits : MacroblockVisits → Visits (n + 1)
  flags : EdgeFlags → Vector Bool (n + 1)
  bottom : ∀ v : MacroblockVisits, flags v.bottom = (visits v).bottom
  right : ∀ v : MacroblockVisits, flags v.right = (visits v).right
  none : flags .none = .replicate (n + 1) false
  second : ∀ (e : EdgeFlags) (flag : Bool), flags { e with second := flag } = flags e

namespace TokenPlane

def luma : TokenPlane 3 :=
  ⟨(·.luma), (·.luma), fun _ => rfl, fun _ => rfl, rfl, fun _ _ => rfl⟩

def cb : TokenPlane 1 := ⟨(·.cb), (·.cb), fun _ => rfl, fun _ => rfl, rfl, fun _ _ => rfl⟩

def cr : TokenPlane 1 := ⟨(·.cr), (·.cr), fun _ => rfl, fun _ => rfl, rfl, fun _ _ => rfl⟩

variable {n rows cols : Nat}

/-- The blocks of the picture that have tokens. Those of a macroblock without tokens have none. -/
def coded (p : TokenPlane n) (steps : Fin rows → Fin cols → TokenStep) :
    Squares rows cols (n + 1) Bool :=
  fun r c y x => (TokenContext.seen steps r c).any fun v => (p.visits v y x).coded

/-- The context of every block of a macroblock counts those above and to the left that have
    tokens, in the macroblock or in another one. -/
def CountsNeighbours (p : TokenPlane n) (steps : Fin rows → Fin cols → TokenStep) (r : Fin rows)
    (c : Fin cols) (v : MacroblockVisits) : Prop :=
  ∀ y x, (p.visits v y x).context.val =
    ((p.coded steps).above false ((n + 1) * r + y) ((n + 1) * c + x)).toNat +
      ((p.coded steps).left false ((n + 1) * r + y) ((n + 1) * c + x)).toNat

variable (p : TokenPlane n) (steps : Fin rows → Fin cols → TokenStep)

theorem flags_behind {m : Nat} (hasSecond : Fin m → Bool) (edge : Fin m → EdgeFlags) (k : Fin m) :
    p.flags (flagsBehind hasSecond edge k) =
      if 0 < k.val then p.flags (edge (prior k)) else .replicate (n + 1) false := by
  unfold flagsBehind
  rw [p.second]
  by_cases later : 0 < k.val
  · rw [dif_pos ⟨later, k.isLt.le⟩, if_pos later]
    rfl
  · rw [dif_neg fun inside => later inside.1, if_neg later, p.none]

theorem get_lower (r : Fin rows) (c : Fin cols) (x : Fin (n + 1)) :
    (p.flags (TokenContext.lower steps r c)).get x = p.coded steps r c (Fin.last n) x := by
  unfold TokenContext.lower coded
  cases TokenContext.seen steps r c with
  | none => rw [Option.elim_none, p.none, get_replicate]; rfl
  | some v => rw [Option.elim_some, p.bottom, Visits.get_bottom]; rfl

theorem get_right (r : Fin rows) (c : Fin cols) (y : Fin (n + 1)) :
    (p.flags (TokenContext.right steps r c)).get y = p.coded steps r c y (Fin.last n) := by
  unfold TokenContext.right coded
  cases TokenContext.seen steps r c with
  | none => rw [Option.elim_none, p.none, get_replicate]; rfl
  | some v => rw [Option.elim_some, p.right]; exact (p.visits v).transposed.get_bottom y

theorem get_column (r : Fin rows) (c : Fin cols) (x : Fin (n + 1)) :
    (p.flags (TokenContext.column steps c r)).get x =
      if 0 < r.val then p.coded steps (prior r) c (Fin.last n) x else false := by
  unfold TokenContext.column
  rw [flags_behind]
  split
  · rw [get_lower]
  · rw [get_replicate]

theorem get_line (r : Fin rows) (c : Fin cols) (y : Fin (n + 1)) :
    (p.flags (TokenContext.line steps r c)).get y =
      if 0 < c.val then p.coded steps r (prior c) y (Fin.last n) else false := by
  unfold TokenContext.line
  rw [flags_behind]
  split
  · rw [get_right]
  · rw [get_replicate]

theorem countsNeighbours {r : Fin rows} {c : Fin cols} {v : MacroblockVisits}
    (read : v ∈ TokenContext.seen steps r c)
    (inContext : (p.visits v).InContext (p.flags (TokenContext.column steps c r))
      (p.flags (TokenContext.line steps r c))) :
    p.CountsNeighbours steps r c v := by
  have own (y x : Fin (n + 1)) : (p.visits v y x).coded = p.coded steps r c y x := by
    simp only [coded, Option.mem_def.mp read, Option.any_some]
  intro y x
  rw [inContext y x, neighbourContext_val, Squares.above_eq, Squares.left_eq,
    Visits.above_eq, Visits.left_eq, get_column, get_line]
  simp only [own]
  rfl

end TokenPlane

namespace TokenContext

variable {rows cols : Nat} (steps : Fin rows → Fin cols → TokenStep)

def secondCoded (r : Fin rows) (c : Fin cols) : Bool :=
  (seen steps r c).any fun v => v.second.any (·.coded)

theorem lower_second (r : Fin rows) (c : Fin cols) :
    (lower steps r c).second = secondCoded steps r c := by
  unfold lower secondCoded
  cases seen steps r c <;> rfl

theorem right_second (r : Fin rows) (c : Fin cols) :
    (right steps r c).second = secondCoded steps r c := by
  unfold right secondCoded
  cases seen steps r c <;> rfl

/-- The context of a second-order block counts the nearest ones above and to the left that have
    tokens, however many macroblocks without one lie between. -/
def CountsNearest (r : Fin rows) (c : Fin cols) (v : MacroblockVisits) : Prop :=
  ∀ visit ∈ v.second, visit.context.val =
    (nearest (fun y => (steps y c).hasSecond) (fun y => secondCoded steps y c) r).toNat +
      (nearest (fun x => (steps r x).hasSecond) (fun x => secondCoded steps r x) c).toNat

/-- In a picture read in raster order, the context of every block is the number of its neighbours
    with tokens. Noting the contexts changes nothing in what is read. -/
theorem contexts_count_neighbours (r : Fin rows) (c : Fin cols) :
    (∀ probs hasSecond above left,
      Coded.Related (fun s t => s.1 = t) (MacroblockTokens.trace probs hasSecond above left)
        (MacroblockTokens.read probs hasSecond above left)) ∧
    (seen steps r c).isSome = (steps r c).source.isSome ∧
    ∀ v ∈ seen steps r c,
      TokenPlane.luma.CountsNeighbours steps r c v ∧
      TokenPlane.cb.CountsNeighbours steps r c v ∧
      TokenPlane.cr.CountsNeighbours steps r c v ∧
      v.second.isSome = (steps r c).hasSecond ∧
      CountsNearest steps r c v := by
  refine ⟨MacroblockTokens.trace_related, Option.isSome_map, ?_⟩
  intro v read
  obtain ⟨tokens, traced⟩ := seen_traced steps read
  refine ⟨?_, ?_, ?_, traced.second, ?_⟩
  · exact TokenPlane.luma.countsNeighbours steps read traced.luma
  · exact TokenPlane.cb.countsNeighbours steps read traced.cb
  · exact TokenPlane.cr.countsNeighbours steps read traced.cr
  · intro visit found
    rw [traced.secondContext visit found, neighbourContext_val]
    simp only [column, line, flagsBehind, lower_second, right_second]

/-- Three macroblocks of which the one in the middle has no second-order block. -/
theorem contexts_count_neighbours_three :
    let steps : Fin 1 → Fin 3 → TokenStep := fun _ c =>
      ⟨c ≠ 1, some (CoefficientProbs.default, .ofBytes ⟨#[200, 100, 50, 25]⟩)⟩
    ∃ v, v ∈ seen steps 0 2 ∧ TokenPlane.luma.CountsNeighbours steps 0 2 v ∧
      v.second.isSome = true ∧ CountsNearest steps 0 2 v := by
  intro steps
  obtain ⟨luma, _, _, second, nearest⟩ := (contexts_count_neighbours steps 0 2).2.2 _ rfl
  exact ⟨_, rfl, luma, second, nearest⟩

end TokenContext

end Vp8
