import Mathlib.Algebra.GroupWithZero.Nat
import Mathlib.Data.List.MinMax
import Vp8.Proofs.Macroblock.Candidates

/-!
What the candidates are. Every inter-coded neighbour votes for its vector, and a vector weighs what
all who vote for it weigh together. The search compares a vote with nothing but the vector found
last, and yet it ends with the two heaviest vectors besides zero.
-/
namespace Vp8

namespace Candidates

/-- The vector that a neighbour votes for, turned round where the biases of its reference and of the
    current one differ. -/
def turned (bias : SignBias) (reference : Reference) (m : Macroblock) : MotionVector :=
  if m.vector ≠ .zero ∧ bias.of m.reference ≠ bias.of reference then m.vector.neg else m.vector

def votes (bias : SignBias) (reference : Reference) (neighbours : List (Macroblock × Nat)) :
    List (MotionVector × Nat) :=
  (neighbours.filter fun n => n.1.reference ≠ .current).map fun n =>
    (turned bias reference n.1, n.2)

def weightIn (votes : List (MotionVector × Nat)) (v : MotionVector) : Nat :=
  ((votes.filter fun vote => vote.1 = v).map Prod.snd).sum

@[simp] theorem weightIn_nil (v : MotionVector) : weightIn [] v = 0 := rfl

@[simp] theorem weightIn_cons (vote : MotionVector × Nat) (votes : List (MotionVector × Nat))
    (v : MotionVector) :
    weightIn (vote :: votes) v = (if vote.1 = v then vote.2 else 0) + weightIn votes v := by
  by_cases same : vote.1 = v <;> simp [weightIn, same]

def moving (votes : List (MotionVector × Nat)) : List (MotionVector × Nat) :=
  votes.filter fun vote => vote.1 ≠ .zero

/-- The heaviest vector besides zero, and the first of several that weigh the same. -/
def heaviest? (votes : List (MotionVector × Nat)) : Option MotionVector :=
  ((moving votes).map Prod.fst).argmax (weightIn votes)

/-- The heaviest of the others. -/
def runnerUp? (votes : List (MotionVector × Nat)) : Option MotionVector :=
  (((moving votes).map Prod.fst).filter fun v => heaviest? votes ≠ some v).argmax (weightIn votes)

def weighed (votes : List (MotionVector × Nat)) : Option MotionVector → MotionVector × Nat
  | none => (.zero, 0)
  | some v => (v, weightIn votes v)

theorem neg_zero : MotionVector.zero.neg = .zero := rfl

theorem lend_eq (bias : SignBias) (reference : Reference) (m : Macroblock) :
    lend bias reference m = turned bias reference m := by
  unfold lend turned
  by_cases still : m.vector = .zero
  · simp [still, neg_zero]
  · by_cases same : bias.of m.reference = bias.of reference <;> simp [still, same]

def push (found : List (MotionVector × Nat)) (vote : MotionVector × Nat) :
    List (MotionVector × Nat) :=
  match found with
  | [] => [vote]
  | (w, total) :: rest => if vote.1 = w then (w, total + vote.2) :: rest else vote :: found

theorem Tally.add_eq (t : Tally) (vote : MotionVector × Nat) :
    t.add vote.1 vote.2 =
      if vote.1 = .zero then { t with zero := t.zero + vote.2 }
      else { t with found := push t.found vote } := by
  simp only [Tally.add, MotionVector.isZero, beq_iff_eq]
  congr 1
  cases found : t.found with
  | nil => rfl
  | cons latest rest =>
    simp only [push]
    split <;> rfl

/-- Votes for zero and votes for other vectors are counted apart. -/
theorem counted (votes : List (MotionVector × Nat)) (t : Tally) :
    votes.foldl (fun t vote => t.add vote.1 vote.2) t =
      ⟨t.zero + weightIn votes .zero, (moving votes).foldl push t.found⟩ := by
  induction votes generalizing t with
  | nil => rfl
  | cons vote votes ih =>
    rw [List.foldl_cons, ih, t.add_eq]
    by_cases still : vote.1 = .zero
    · simp [moving, still, Nat.add_assoc]
    · simp [moving, still]

theorem counted_neighbours (bias : SignBias) (reference : Reference)
    (neighbours : List (Macroblock × Nat)) :
    neighbours.foldl (Tally.addNeighbour bias reference) ⟨0, []⟩ =
      ⟨weightIn (votes bias reference neighbours) .zero,
        (moving (votes bias reference neighbours)).foldl push []⟩ := by
  have each (t : Tally) : neighbours.foldl (Tally.addNeighbour bias reference) t =
      (votes bias reference neighbours).foldl (fun t vote => t.add vote.1 vote.2) t := by
    induction neighbours generalizing t with
    | nil => rfl
    | cons n neighbours ih =>
      rw [List.foldl_cons, ih]
      by_cases intra : n.1.reference = .current
      · simp [votes, Tally.addNeighbour, intra]
      · simp [votes, Tally.addNeighbour, intra, lend_eq]
  rw [each, counted, Nat.zero_add]

theorem weightIn_moving (votes : List (MotionVector × Nat)) {v : MotionVector} (moves : v ≠ .zero) :
    weightIn votes v = weightIn (moving votes) v := by
  induction votes with
  | nil => rfl
  | cons vote votes ih =>
    unfold moving at ih ⊢
    by_cases still : vote.1 = .zero
    · simp [still, moves.symm, ih]
    · simp [still, ih]

/-- Of up to three votes for vectors besides zero, the ranking has the two heaviest vectors. With
    two votes any weights will do; a third one is the lightest, so that its vector only counts where
    somebody else has voted for it. -/
theorem ranked_moving {votes : List (MotionVector × Nat)} {a b c : MotionVector}
    (few : (moving votes).Sublist [(a, 2), (b, 2), (c, 1)]) (still : Nat) :
    Tally.ranked ⟨still, (moving votes).foldl push []⟩ =
      (weighed votes (heaviest? votes), weighed votes (runnerUp? votes)) := by
  have weight : ∀ v, v ≠ .zero → weightIn votes v = weightIn (moving votes) v :=
    fun v moves => weightIn_moving votes moves
  have moves : ∀ vote ∈ moving votes, vote.1 ≠ .zero := by simp [moving]
  unfold runnerUp? heaviest?
  match ms : moving votes with
  | [] => simp [Tally.ranked, weighed]
  | [(a, m)] =>
    have one : a ≠ .zero := by simpa [ms] using moves
    simp [Tally.ranked, weighed, push, weight, ms, one]
  | [(a, m), (b, n)] =>
    have two : a ≠ .zero ∧ b ≠ .zero := by simpa [ms] using moves
    rcases eq_or_ne a b with rfl | ab
    · simp [Tally.ranked, weighed, push, weight, ms, List.argmax_cons, two]
    · by_cases more : m < n <;>
        simp [Tally.ranked, weighed, push, weight, ms, List.argmax_cons, two, ab, ab.symm, more]
  | x :: y :: z :: rest =>
    rw [ms] at few
    cases few.eq_of_length_le (by simp)
    have three : a ≠ .zero ∧ b ≠ .zero ∧ c ≠ .zero := by simpa [ms] using moves
    rcases eq_or_ne a b with rfl | ab
    · rcases eq_or_ne a c with rfl | ac
      · simp [Tally.ranked, weighed, push, weight, ms, List.argmax_cons, three]
      · simp [Tally.ranked, weighed, push, weight, ms, List.argmax_cons, three, ac, ac.symm]
    · rcases eq_or_ne b c with rfl | bc
      · simp [Tally.ranked, weighed, push, weight, ms, List.argmax_cons, three, ab, ab.symm]
      · rcases eq_or_ne a c with rfl | ac
        · simp [Tally.ranked, weighed, push, weight, ms, List.argmax_cons, three, ab, ab.symm]
        · simp [Tally.ranked, weighed, push, weight, ms, List.argmax_cons, three, ab, ab.symm, bc,
            bc.symm, ac, ac.symm]

structure Ranks (around : List (Macroblock × Nat)) (votes : List (MotionVector × Nat))
    (c : Candidates) : Prop where
  nearest : (c.nearest, c.nearestWeight) = weighed votes (heaviest? votes)
  near : (c.near, c.nearWeight) = weighed votes (runnerUp? votes)
  zeroWeight : c.zeroWeight = weightIn votes .zero
  splitWeight : c.splitWeight = ((around.filter fun n => n.1.mode = .split).map Prod.snd).sum
  best : c.best = if c.nearestWeight ≥ c.zeroWeight then c.nearest else .zero
  light : c.zeroWeight ≤ 5 ∧ c.nearestWeight ≤ 5 ∧ c.nearWeight ≤ 5 ∧ c.splitWeight ≤ 5
  known : c.modeProbs? = some c.modeProbs

theorem weightOfSplits_eq (around : List (Macroblock × Nat)) :
    weightOfSplits around = ((around.filter fun n => n.1.mode = .split).map Prod.snd).sum := by
  induction around with
  | nil => rfl
  | cons n around ih =>
    unfold weightOfSplits at ih ⊢
    rw [List.foldr_cons, ih]
    by_cases split : n.1.mode = .split <;> simp [split]

theorem moving_votes (bias : SignBias) (reference : Reference) (above left aboveLeft : Macroblock) :
    (moving (votes bias reference [(above, 2), (left, 2), (aboveLeft, 1)])).Sublist
      [(turned bias reference above, 2), (turned bias reference left, 2),
        (turned bias reference aboveLeft, 1)] :=
  List.filter_sublist.trans (List.filter_sublist.map _)

theorem search_ranks (bias : SignBias) (reference : Reference) (above left aboveLeft : Macroblock) :
    let around := [(above, 2), (left, 2), (aboveLeft, 1)]
    Ranks around (votes bias reference around) (search bias reference around) := by
  intro around
  have tally := counted_neighbours bias reference around
  have ranked := ranked_moving (moving_votes bias reference above left aboveLeft)
    (weightIn (votes bias reference around) .zero)
  rw [← tally] at ranked
  have weights := search_weights bias reference around
  have five : weightOf around = 5 := rfl
  rw [five] at weights
  exact {
    nearest := congrArg Prod.fst ranked
    near := congrArg Prod.snd ranked
    zeroWeight := congrArg Tally.zero tally
    splitWeight := weightOfSplits_eq around
    best := rfl
    light := weights
    known := modeProbs?_eq (Nat.le_of_eq five) }

/-- The candidates of a macroblock are the heaviest vector besides zero that the inter-coded
    neighbours vote for, and the heaviest of the others, where the macroblocks above and to the left
    vote with weight two, and the one above left with weight one. -/
theorem search_finds_heaviest {rows cols : Nat} (g : Grid rows cols) (r : Fin rows) (c : Fin cols)
    (bias : SignBias) (reference : Reference) :
    let around := [(g.above r c, 2), (g.left r c, 2), (g.aboveLeft r c, 1)]
    Ranks around (votes bias reference around) (search bias reference (neighbours g r c)) :=
  search_ranks bias reference (g.above r c) (g.left r c) (g.aboveLeft r c)

/-- The vector above comes again above left, turned round: a vote in between does not part them. -/
example :
    let voter (reference : Reference) (v : MotionVector) :=
      { Macroblock.default with mode := .new, reference, vector := v }
    let c := search ⟨true, false⟩ .last
      [(voter .last ⟨4, -2⟩, 2), (voter .last ⟨1, 1⟩, 2), (voter .golden ⟨-4, 2⟩, 1)]
    (c.nearest, c.nearestWeight) = (⟨4, -2⟩, 3) ∧ (c.near, c.nearWeight) = (⟨1, 1⟩, 2) := by decide

end Candidates

end Vp8
