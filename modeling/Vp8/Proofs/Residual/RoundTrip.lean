import Vp8.Proofs.Entropy.RoundTrip
import Vp8.Proofs.Table
import Vp8.Residual.Token

/-!
Coefficients that are written and read back. A block is written value by value in the order of the
scan, up to the last value besides zero; the reader finds each value in its place, and knows from the
first decision whether there are any.
-/
namespace Vp8

namespace Token

def categoryOf (magnitude : Nat) : Fin 6 :=
  ((List.finRange 6).reverse.find? fun k => categoryBase.get k ≤ magnitude).getD 0

def ofMagnitude (magnitude : Nat) : Token :=
  if magnitude < 5 then literal magnitude else category (categoryOf magnitude)

def toLeaf : Token → Nat
  | literal magnitude => magnitude
  | category k => 5 + k
  | endOfBlock => 11

def extraChoices (extra : Nat) : List UInt8 → List Choice
  | [] => []
  | prob :: probs => ⟨prob, extra.testBit probs.length⟩ :: extraChoices extra probs

def magnitudeChoices (magnitude : Nat) : Token → List Choice
  | category k => extraChoices (magnitude - categoryBase.get k) (categoryProbs.get k)
  | _ => []

def valueChoices (probs : NodeProbs) (value : Int) : List Choice :=
  let token := ofMagnitude value.natAbs
  tree.choices probs.toArray token.toLeaf nonzeroPair ++
    (token.magnitudeChoices value.natAbs ++ [.flag (decide (value < 0))])

def maxMagnitude : Nat := 2114

section Magnitude

variable {magnitude : Nat}

theorem categoryOf_bounds (large : 5 ≤ magnitude) (small : magnitude ≤ maxMagnitude) :
    categoryBase.get (categoryOf magnitude) ≤ magnitude ∧
      magnitude - categoryBase.get (categoryOf magnitude) <
        2 ^ (categoryProbs.get (categoryOf magnitude)).length := by
  have downwards : (List.finRange 6).reverse = [5, 4, 3, 2, 1, 0] := by decide
  unfold maxMagnitude at small
  unfold categoryOf
  rw [downwards]
  simp only [List.find?_cons]
  repeat' split
  all_goals simp_all [categoryBase, categoryProbs, Vector.get]
  all_goals omega

theorem ofLeaf_ofMagnitude (magnitude : Nat) :
    ofLeaf (ofMagnitude magnitude).toLeaf = ofMagnitude magnitude := by
  unfold ofMagnitude
  split
  · rename_i low
    simp [toLeaf, ofLeaf, low]
  · generalize categoryOf magnitude = k
    revert k
    decide

theorem tree_holds (moving : magnitude ≠ 0) :
    (tree.path? (ofMagnitude magnitude).toLeaf nonzeroPair).isSome := by
  have leaves : ∀ leaf : Fin 10, (tree.path? (leaf + 1) nonzeroPair).isSome := by decide
  unfold ofMagnitude
  split
  · have leaf := leaves ⟨magnitude - 1, by omega⟩
    rwa [Nat.sub_add_cancel (Nat.pos_of_ne_zero moving)] at leaf
  · generalize categoryOf magnitude = k
    have leaf := leaves ⟨4 + k, by omega⟩
    rwa [Nat.add_right_comm] at leaf

end Magnitude

theorem readExtra_path (extra : Nat) (probs : List UInt8) (high : Nat) :
    (readExtra high probs).Path (extraChoices extra probs)
      (high * 2 ^ probs.length + extra % 2 ^ probs.length) := by
  induction probs generalizing high with
  | nil =>
    simp only [List.length_nil, Nat.pow_zero, Nat.mul_one, Nat.mod_one, Nat.add_zero]
    exact .value high
  | cons prob probs ih =>
    have tail := ih (2 * high + (extra.testBit probs.length).toNat)
    have total : (2 * high + (extra.testBit probs.length).toNat) * 2 ^ probs.length +
        extra % 2 ^ probs.length =
          high * 2 ^ (probs.length + 1) + extra % 2 ^ (probs.length + 1) := by
      rw [mod_two_pow_succ]
      ring
    rw [total] at tail
    exact .choice _ tail

theorem readMagnitude_path {magnitude : Nat} (small : magnitude ≤ maxMagnitude) :
    (ofMagnitude magnitude).readMagnitude.Path
      ((ofMagnitude magnitude).magnitudeChoices magnitude) magnitude := by
  unfold ofMagnitude
  split
  · exact .value magnitude
  · obtain ⟨base, width⟩ := categoryOf_bounds (by omega) small
    have extra := readExtra_path (magnitude - categoryBase.get (categoryOf magnitude))
      (categoryProbs.get (categoryOf magnitude)) 0
    rw [Nat.zero_mul, Nat.zero_add, Nat.mod_eq_of_lt width] at extra
    have whole := extra.map (categoryBase.get (categoryOf magnitude) + ·)
    rwa [Nat.add_sub_cancel' base] at whole

theorem readSigned_path {value : Int} (small : value.natAbs ≤ maxMagnitude) :
    (ofMagnitude value.natAbs).readSigned.Path
      ((ofMagnitude value.natAbs).magnitudeChoices value.natAbs ++ [.flag (decide (value < 0))])
      value := by
  unfold readSigned
  exact (readMagnitude_path small).bind (Coded.sign_path 128 value)

end Token

namespace Block

section Scan

def Ended (values : Vector Int 16) (position : Nat) : Prop :=
  ∀ i : Fin 16, position ≤ i.val → values.get i = 0

instance (values : Vector Int 16) (position : Nat) : Decidable (Ended values position) :=
  inferInstanceAs (Decidable (∀ i : Fin 16, position ≤ i.val → values.get i = 0))

/-- The values in front of a position are in their places, and all others are zero. -/
def Placed (values : Vector Int 16) (position : Nat) (block : Block) : Prop :=
  ∀ i : Fin 16, block.get (zigzag.get i) = if i.val < position then values.get i else 0

theorem scan_lt (left : Nat) : 15 - left < 16 := by omega

/-- The tokens of the values at the last `left` positions. The end of the block is told unless a
    zero stands before it. -/
def tokenChoices (probs : BandProbs) (values : Vector Int 16) :
    (left : Nat) → (mayEnd : Bool) → Fin 3 → List Choice
  | 0, _, _ => []
  | left + 1, mayEnd, context =>
    let position : Fin 16 := ⟨15 - left, scan_lt left⟩
    let p := Token.probsAt probs position.castSucc context
    let value := values.get position
    let more := !decide (Ended values position)
    (if mayEnd then [⟨p.get 0, more⟩] else []) ++
      if !more then []
      else if value = 0 then ⟨p.get 1, false⟩ :: tokenChoices probs values left false 0
      else ⟨p.get 1, true⟩ :: (Token.valueChoices p value ++
        tokenChoices probs values left true (Token.ofMagnitude value.natAbs).nextContext)

def choices (probs : BandProbs) (context : Fin 3) (first : Fin 17) (values : Vector Int 16) :
    List Choice :=
  let more := !decide (Ended values first)
  ⟨(Token.probsAt probs first context).get 0, more⟩ ::
    if more then tokenChoices probs values (16 - first) false context else []

variable {values : Vector Int 16} {block : Block} {position : Nat}

theorem zigzag_injective {i j : Fin 16} (same : zigzag.get i = zigzag.get j) : i = j := by
  revert i j
  decide

theorem Placed.whole (placed : Placed values position block) (ended : Ended values position) :
    Placed values 16 block := by
  intro i
  rw [placed i, if_pos i.isLt]
  split
  · rfl
  · exact (ended i (by omega)).symm

theorem Placed.next {i : Fin 16} (placed : Placed values i block) :
    Placed values (i + 1) (replaceAt block (zigzag.get i) (values.get i)) := by
  intro j
  rw [get_replaceAt]
  by_cases here : i = j
  · simp [here]
  · rw [if_neg fun same => here (zigzag_injective same), placed j]
    congr 1
    exact propext (by omega)

theorem Placed.next_zero {i : Fin 16} (placed : Placed values i block) (zero : values.get i = 0) :
    Placed values (i + 1) block := by
  intro j
  rw [placed j]
  by_cases here : i = j
  · simp [← here, zero]
  · congr 1
    exact propext (by omega)

/-- What is read behind the test for the end, given how the tokens behind it are read. -/
theorem readToken_path {probs : BandProbs} {p : NodeProbs} {left : Nat} {i : Fin 16}
    (small : (values.get i).natAbs ≤ Token.maxMagnitude) (placed : Placed values i block)
    (more : ¬ Ended values i)
    (behind : ∀ mayEnd context {block}, Placed values (i + 1) block →
      (mayEnd = false → ¬ Ended values (i + 1)) →
      ∃ done, (readTokens probs left mayEnd context block).Path
        (tokenChoices probs values left mayEnd context) done ∧ Placed values 16 done) :
    ∃ done, (do
        if ← Coded.bool (p.get 1) then
          let token := Token.ofLeaf (← Token.tree.read p Token.nonzeroPair (by decide))
          let value ← token.readSigned
          readTokens probs left true token.nextContext (replaceAt block (zigzag.get i) value)
        else readTokens probs left false 0 block).Path
      (if values.get i = 0 then ⟨p.get 1, false⟩ :: tokenChoices probs values left false 0
        else ⟨p.get 1, true⟩ :: (Token.valueChoices p (values.get i) ++
          tokenChoices probs values left true
            (Token.ofMagnitude (values.get i).natAbs).nextContext)) done ∧
      Placed values 16 done := by
  by_cases zero : values.get i = 0
  · -- some value behind the zero keeps the block from ending there
    have later : ¬ Ended values (i + 1) := by
      intro ended
      apply more
      intro j from_here
      by_cases here : i = j
      · rw [← here, zero]
      · exact ended j (by omega)
    obtain ⟨done, rest, whole⟩ := behind false 0 (placed.next_zero zero) fun _ => later
    rw [if_pos zero]
    exact ⟨done, .choice false rest, whole⟩
  · obtain ⟨done, rest, whole⟩ :=
      behind true (Token.ofMagnitude (values.get i).natAbs).nextContext placed.next nofun
    rw [if_neg zero]
    refine ⟨done, .choice true ?_, whole⟩
    unfold Token.valueChoices
    rw [List.append_assoc]
    apply (CodeTree.read_path (Token.tree_holds (by omega)) p (by decide)).bind
    dsimp only
    rw [Token.ofLeaf_ofMagnitude]
    exact (Token.readSigned_path small).bind rest

/-- In front of a position, the reader has placed the values before it, and where it does not test
    for the end there is some value to come. -/
theorem readTokens_path (probs : BandProbs)
    (small : ∀ i, (values.get i).natAbs ≤ Token.maxMagnitude) {left : Nat} (room : left ≤ 16)
    (mayEnd : Bool) (context : Fin 3) (placed : Placed values (16 - left) block)
    (goesOn : mayEnd = false → ¬ Ended values (16 - left)) :
    ∃ done, (readTokens probs left mayEnd context block).Path
      (tokenChoices probs values left mayEnd context) done ∧ Placed values 16 done := by
  induction left generalizing mayEnd context block with
  | zero => exact ⟨block, .value block, placed⟩
  | succ left ih =>
    have here : 16 - (left + 1) = 15 - left := by omega
    have next : 16 - left = 15 - left + 1 := by omega
    rw [here] at placed goesOn
    rw [next] at ih
    unfold readTokens tokenChoices
    dsimp only
    by_cases ended : Ended values (15 - left)
    · cases mayEnd with
      | false => exact absurd ended (goesOn rfl)
      | true =>
        simp only [ended, decide_true, Bool.not_true, Bool.not_false, ↓reduceIte]
        exact ⟨block, .choice false (.value block), placed.whole ended⟩
    · obtain ⟨done, path, whole⟩ := readToken_path (i := ⟨15 - left, by omega⟩) (small _) placed
        ended fun mayEnd context _ => ih (by omega) mayEnd context
      simp only [ended, decide_false, Bool.not_false, Bool.not_true, Bool.false_eq_true, ↓reduceIte]
      refine ⟨done, ?_, whole⟩
      cases mayEnd with
      | false => exact path
      | true => exact .choice true path

/-- A written block is read back, and with it whether it has any value besides zero. -/
theorem read_path (probs : BandProbs) (small : ∀ i, (values.get i).natAbs ≤ Token.maxMagnitude)
    (context : Fin 3) {first : Fin 17} (blank : ∀ i : Fin 16, i.val < first → values.get i = 0) :
    ∃ done, (read probs context first).Path (choices probs context first values) done ∧
      Placed values 16 done.1 ∧ (done.2 = true ↔ ∃ i, values.get i ≠ 0) := by
  have start : Placed values first zero := by
    intro i
    rw [zero, get_replicate]
    split
    · rename_i before
      exact (blank i before).symm
    · rfl
  unfold read choices
  dsimp only
  by_cases ended : Ended values first
  · simp only [ended, decide_true, Bool.not_true, Bool.false_eq_true, ↓reduceIte]
    refine ⟨(zero, false), .choice false (.value _), start.whole ended, nofun, ?_⟩
    rintro ⟨i, other⟩
    by_cases before : i.val < first
    · exact absurd (blank i before) other
    · exact absurd (ended i (by omega)) other
  · have behind : 16 - (16 - first.val) = first := by omega
    obtain ⟨done, path, whole⟩ := readTokens_path probs small (Nat.sub_le 16 first) false context
      (behind.symm ▸ start) fun _ => behind.symm ▸ ended
    simp only [ended, decide_false, Bool.not_false, ↓reduceIte]
    refine ⟨(done, true), .choice true (path.map (·, true)), whole, fun _ => ?_, fun _ => rfl⟩
    simp only [Ended, not_forall] at ended
    obtain ⟨i, _, other⟩ := ended
    exact ⟨i, other⟩

end Scan

end Block

structure BlockFormat where
  probs : BandProbs
  context : Fin 3
  first : Fin 17

/-- A block with values that tokens can stand for, none of them before the scan starts. -/
structure PlannedBlock extends BlockFormat where
  values : Vector Int 16
  small : ∀ i, (values.get i).natAbs ≤ Token.maxMagnitude
  blank : ∀ i : Fin 16, i.val < first → values.get i = 0

namespace BlockFormat

def readAll : List BlockFormat → Coded (List (Block × Bool))
  | [] => return []
  | format :: formats => do
    let block ← Block.read format.probs format.context format.first
    let blocks ← readAll formats
    return block :: blocks

end BlockFormat

namespace PlannedBlock

def ReadAs (plan : PlannedBlock) (read : Block × Bool) : Prop :=
  (∀ i, read.1.get (Block.zigzag.get i) = plan.values.get i) ∧
    (read.2 = true ↔ ∃ i, plan.values.get i ≠ 0)

def choices (plan : PlannedBlock) : List Choice :=
  Block.choices plan.probs plan.context plan.first plan.values

theorem readAll_path (plans : List PlannedBlock) :
    ∃ done, (BlockFormat.readAll (plans.map toBlockFormat)).Path (plans.flatMap choices) done ∧
      plans.Forall₂ ReadAs done := by
  induction plans with
  | nil => exact ⟨[], .value [], .nil⟩
  | cons plan plans ih =>
    obtain ⟨blocks, tail, same⟩ := ih
    obtain ⟨block, first, placed, coded⟩ :=
      Block.read_path plan.probs plan.small plan.context plan.blank
    refine ⟨block :: blocks, first.bind (tail.map (block :: ·)), .cons ⟨?_, coded⟩ same⟩
    intro i
    rw [placed i, if_pos i.isLt]

/-- Blocks that are written one after another, in any contexts and with any probabilities, are read
    back one after another, and need no more data than there is. -/
theorem written_blocks_are_read (plans : List PlannedBlock) :
    let done := (BlockFormat.readAll (plans.map toBlockFormat)).read
      (.ofBytes (encodeChoices (plans.flatMap choices)))
    plans.Forall₂ ReadAs done.1 ∧ done.2.overrun = false := by
  obtain ⟨blocks, path, same⟩ := readAll_path plans
  obtain ⟨read, within⟩ := Coded.read_encodeChoices path
  exact ⟨read ▸ same, within⟩

/-- Values of both signs, up to the largest, with gaps between them. -/
def gappedBlock : PlannedBlock where
  probs := CoefficientProbs.default.get 0
  context := 2
  first := 1
  values := #v[0, 1, 0, 0, -2114, 0, 67, 0, 0, 0, 0, 0, 0, 0, 0, -3]
  small := by decide
  blank := by decide

def blankBlock : PlannedBlock where
  probs := CoefficientProbs.default.get 3
  context := 0
  first := 0
  values := .replicate 16 0
  small := by decide
  blank := by decide

theorem gapped_blocks_are_read :
    ∃ first second, ((BlockFormat.readAll ([gappedBlock, blankBlock].map toBlockFormat)).read
        (.ofBytes (encodeChoices ([gappedBlock, blankBlock].flatMap choices)))).1 =
          [first, second] ∧
      first.1.get (Block.zigzag.get 4) = -2114 ∧ first.2 = true ∧ second.2 = false := by
  obtain ⟨same, _⟩ := written_blocks_are_read [gappedBlock, blankBlock]
  generalize (Coded.read _ _).1 = done at same ⊢
  cases same with
  | @cons _ first _ _ gapped rest =>
    cases rest with
    | @cons _ second _ _ blank rest =>
      cases rest
      refine ⟨first, second, rfl, gapped.1 4, gapped.2.mpr ⟨1, by decide⟩, ?_⟩
      rw [Bool.eq_false_iff, Ne, blank.2]
      decide

end PlannedBlock

end Vp8
