import Vp8.Macroblock.MotionVector
import Vp8.Proofs.Entropy.RoundTrip
import Vp8.Proofs.Entropy.Tree

/-!
Writing motion vectors. A magnitude below eight is a leaf of a tree. A larger one is told bit by
bit, but for the bit of eight where no higher bit is set, since then it must be. Components that are
written in a row are read back, and no data makes a reader leave the range of those that can be
written: ten bits are too few for a component to grow out of its word when it is doubled.
-/
namespace Vp8

namespace MotionVector

section Magnitude

variable (probs : ComponentProbs)

def bitChoices (x : Nat) (ks : List (Fin 10)) : List Choice :=
  ks.map fun k : Fin 10 => ⟨probs.get (k.natAdd 9), x.testBit k⟩

/-- The part of a number that some of its bits make up. -/
def bitsAt (x : Nat) (ks : List (Fin 10)) : Nat :=
  (ks.map fun k : Fin 10 => (x.testBit k).toNat <<< k.val).sum

theorem readBits_path (x : Nat) (ks : List (Fin 10)) :
    (readBits probs ks).Path (bitChoices probs x ks) (bitsAt x ks) := by
  induction ks with
  | nil => exact .value 0
  | cons k ks ih =>
    apply Coded.Path.choice (x.testBit k)
    exact ih.map ((x.testBit k).toNat <<< k.val + ·)

def longBits : List (Fin 10) := [0, 1, 2, 9, 8, 7, 6, 5, 4]

theorem bitsAt_longBits {x : Nat} (small : x < 1024) :
    bitsAt x longBits + 8 * (x.testBit 3).toNat = x := by
  have b0 := mod_two_pow_succ x 0
  have b1 := mod_two_pow_succ x 1
  have b2 := mod_two_pow_succ x 2
  have b3 := mod_two_pow_succ x 3
  have b4 := mod_two_pow_succ x 4
  have b5 := mod_two_pow_succ x 5
  have b6 := mod_two_pow_succ x 6
  have b7 := mod_two_pow_succ x 7
  have b8 := mod_two_pow_succ x 8
  have b9 := mod_two_pow_succ x 9
  simp [bitsAt, longBits, Nat.shiftLeft_eq] at *
  omega

def longChoices (x : Nat) : List Choice :=
  bitChoices probs x longBits ++ if x < 16 then [] else [⟨probs.get 12, x.testBit 3⟩]

theorem readLong_path {x : Nat} (large : 8 ≤ x) (small : x < 1024) :
    (readLong probs).Path (longChoices probs x) x := by
  have whole := bitsAt_longBits small
  have eight : (x.testBit 3).toNat = x / 8 % 2 := Nat.toNat_testBit x 3
  unfold readLong longChoices
  apply (readBits_path probs x longBits).bind
  by_cases low : x < 16
  · rw [if_pos low, if_pos (by omega), show bitsAt x longBits + 8 = x by omega]
    exact .value x
  · rw [if_neg low, if_neg (by omega)]
    have bit : (Coded.bool (probs.get 12)).Path _ (x.testBit 3) := .choice _ (.value _)
    have last := bit.map fun bit => bitsAt x longBits + 8 * bit.toNat
    rwa [whole] at last

theorem shortTree_holds {x : Nat} (small : x < 8) : (shortTree.path? x 0).isSome := by
  have held : ∀ k : Fin 8, (shortTree.path? k 0).isSome := by decide
  exact held ⟨x, small⟩

def magnitudeChoices (x : Nat) : List Choice :=
  if x < 8 then ⟨probs.get 0, false⟩ :: shortTree.choices (probs.extract 2 9).toArray x 0
  else ⟨probs.get 0, true⟩ :: longChoices probs x

theorem readMagnitude_path {x : Nat} (small : x < 1024) :
    (readMagnitude probs).Path (magnitudeChoices probs x) x := by
  unfold readMagnitude magnitudeChoices
  by_cases short : x < 8
  · rw [if_pos short]
    exact .choice false (CodeTree.read_path (shortTree_holds short) _ (by decide))
  · rw [if_neg short]
    exact .choice true (readLong_path probs (by omega) small)

def componentChoices (x : Int) : List Choice :=
  magnitudeChoices probs x.natAbs ++ if x = 0 then [] else [⟨probs.get 1, decide (x < 0)⟩]

theorem readComponent_path {x : Int} (small : x.natAbs < 1024) :
    (readComponent probs).Path (componentChoices probs x) x := by
  unfold readComponent componentChoices
  apply (readMagnitude_path probs small).bind
  by_cases zero : x = 0
  · subst zero
    exact .value 0
  · rw [if_neg zero, if_neg (by omega)]
    exact Coded.sign_path (probs.get 1) x

theorem readBits_yields (ks : List (Fin 10)) :
    (readBits probs ks).Yields (· ≤ (ks.map fun k : Fin 10 => 1 <<< k.val).sum) := by
  induction ks with
  | nil => exact Nat.le_refl 0
  | cons k ks ih =>
    intro bit
    apply ih.bind
    intro rest bounded
    have small : bit.toNat <<< k.val ≤ 1 <<< k.val := by
      rw [Nat.shiftLeft_eq, Nat.shiftLeft_eq]
      exact Nat.mul_le_mul_right _ (Bool.toNat_le bit)
    exact Nat.add_le_add small bounded

theorem readLong_yields : (readLong probs).Yields (· ≤ 1023) := by
  apply (readBits_yields probs longBits).bind
  intro x bounded
  have small : x ≤ 1015 := bounded
  split
  · change x + 8 ≤ 1023
    omega
  · intro bit
    have := Bool.toNat_le bit
    change x + 8 * bit.toNat ≤ 1023
    omega

theorem readMagnitude_yields : (readMagnitude probs).Yields (· ≤ 1023) := by
  intro long
  cases long with
  | true => exact readLong_yields probs
  | false =>
    have short : (shortTree.read (probs.extract 2 9) 0 (by decide)).Yields (· ≤ 7) :=
      CodeTree.readWithin_yields (by decide) (by decide) _ _ _
    exact short.mono fun x small => Nat.le_trans small (by decide)

theorem readComponent_yields :
    (readComponent probs).Yields fun x => -1023 ≤ x ∧ x ≤ 1023 := by
  apply (readMagnitude_yields probs).bind
  intro x small
  split
  · exact ⟨by decide, by decide⟩
  · intro negative
    cases negative with
    | true =>
      change -1023 ≤ -(x : Int) ∧ -(x : Int) ≤ 1023
      omega
    | false =>
      change -1023 ≤ (x : Int) ∧ (x : Int) ≤ 1023
      omega

end Magnitude

def readComponents (tables : List ComponentProbs) : Coded (List Int) := tables.mapM readComponent

def writeComponents (items : List (ComponentProbs × Int)) : ByteArray :=
  encodeChoices (items.flatMap fun item => componentChoices item.1 item.2)

theorem readComponents_path {items : List (ComponentProbs × Int)}
    (small : ∀ item ∈ items, -1023 ≤ item.2 ∧ item.2 ≤ 1023) :
    (readComponents (items.map Prod.fst)).Path
      (items.flatMap fun item => componentChoices item.1 item.2) (items.map Prod.snd) := by
  unfold readComponents
  rw [List.mapM_map]
  apply Coded.Path.mapM
  intro item member
  have := small item member
  exact readComponent_path item.1 (by omega)

theorem read_eq (probs : VectorProbs) (r : BoolReader) :
    ((read probs).read r).1 =
      .ofInts (2 * ((readComponent probs.row).read r).1)
        (2 * ((readComponent probs.col).read ((readComponent probs.row).read r).2).1) := by
  unfold read
  rw [Coded.read_bind, Coded.read_bind]
  rfl

/-- What can be doubled without leaving a word of 16 bits. -/
theorem toInt_doubled {x : Int} (low : -1023 ≤ x) (high : x ≤ 1023) :
    (Int16.ofInt (2 * x)).toInt = 2 * x :=
  Int16.toInt_ofInt_of_le (by omega) (by omega)

/-- Components that are written in a row are read back. From any data a component is read whose
    magnitude has ten bits, so that a vector holds exactly twice the components that are read. -/
theorem written_components_are_read :
    (∀ items : List (ComponentProbs × Int),
      (∀ item ∈ items, -1023 ≤ item.2 ∧ item.2 ≤ 1023) →
      let done := (readComponents (items.map Prod.fst)).read (.ofBytes (writeComponents items))
      done.1 = items.map Prod.snd ∧ done.2.overrun = false) ∧
    (∀ (probs : ComponentProbs) (r : BoolReader),
      -1023 ≤ ((readComponent probs).read r).1 ∧ ((readComponent probs).read r).1 ≤ 1023) ∧
    ∀ (probs : VectorProbs) (r : BoolReader),
      let row := (readComponent probs.row).read r
      let col := (readComponent probs.col).read row.2
      let v := ((read probs).read r).1
      v.row.toInt = 2 * row.1 ∧ v.col.toInt = 2 * col.1 := by
  refine ⟨?trip, ?range, ?doubled⟩
  case trip =>
    intro items small
    exact Coded.read_encodeChoices (readComponents_path small)
  case range =>
    intro probs r
    exact (readComponent_yields probs).read r
  case doubled =>
    intro probs r
    have row := (readComponent_yields probs.row).read r
    have col := (readComponent_yields probs.col).read ((readComponent probs.row).read r).2
    dsimp only
    rw [read_eq]
    exact ⟨toInt_doubled row.1 row.2, toInt_doubled col.1 col.2⟩

/-- Components on both sides of every change of syntax: short, long without and with the bit of
    eight told. -/
def mixedComponents : List (ComponentProbs × Int) :=
  [0, -1, 7, -8, 15, 16, -17, 24, 1023, -1023].flatMap fun x =>
    [(VectorProbs.default.row, x), (VectorProbs.default.col, -x)]

theorem mixed_components_are_read :
    (∀ item ∈ mixedComponents, -1023 ≤ item.2 ∧ item.2 ≤ 1023) ∧
      ((readComponents (mixedComponents.map Prod.fst)).read
        (.ofBytes (writeComponents mixedComponents))).1 = mixedComponents.map Prod.snd := by
  have small : ∀ item ∈ mixedComponents, -1023 ≤ item.2 ∧ item.2 ≤ 1023 := by decide
  exact ⟨small, (written_components_are_read.1 mixedComponents small).1⟩

end MotionVector

structure VectorDelta where
  row : Int
  col : Int
  rowSmall : row.natAbs < 1024
  colSmall : col.natAbs < 1024
  deriving DecidableEq

namespace VectorDelta

def vector (d : VectorDelta) : MotionVector := .ofInts (2 * d.row) (2 * d.col)

def choices (d : VectorDelta) (probs : VectorProbs) : List Choice :=
  MotionVector.componentChoices probs.row d.row ++ MotionVector.componentChoices probs.col d.col

theorem read_path (d : VectorDelta) (probs : VectorProbs) :
    (MotionVector.read probs).Path (d.choices probs) d.vector := by
  unfold MotionVector.read choices
  apply (MotionVector.readComponent_path probs.row d.rowSmall).bind
  exact (MotionVector.readComponent_path probs.col d.colSmall).map fun col =>
    MotionVector.ofInts (2 * d.row) (2 * col)

end VectorDelta

end Vp8
