import Vp8.Proofs.Macroblock.WellFormed

/-!
Limits to vectors, at any place of any picture. Each is a limit on integers that is applied to both
components. None of them leads a component away from zero, because the macroblock itself lies in the
picture; so what comes out fits a word wherever the component did, although the edges of large
pictures lie further away than any vector reaches.
-/
namespace Vp8

def Toward (x y : Int) : Prop := 0 ≤ y ∧ y ≤ x ∨ x ≤ y ∧ y ≤ 0

def Nearest (low high x y : Int) : Prop :=
  low ≤ y ∧ y ≤ high ∧ ∀ z, low ≤ z → z ≤ high → (y - x).natAbs ≤ (z - x).natAbs

structure Limit (f : Int → Int) : Prop where
  toward : ∀ x, Toward x (f x)
  again : ∀ x, f (f x) = f x

section Component

variable {low high : Int}

theorem saturate_nearest (ordered : low ≤ high) (x : Int) :
    Nearest low high x (saturate low high x) := by
  unfold Nearest saturate
  refine ⟨by omega, by omega, ?_⟩
  intro z above below
  omega

theorem saturate_mono {x y : Int} (le : x ≤ y) : saturate low high x ≤ saturate low high y := by
  unfold saturate
  omega

theorem saturate_of_inside {x : Int} (above : low ≤ x) (below : x ≤ high) :
    saturate low high x = x := by
  unfold saturate
  omega

variable (before : low ≤ 0) (behind : 0 ≤ high)

include before behind

theorem saturate_limit : Limit (saturate low high) where
  toward x := by
    unfold Toward saturate
    omega
  again x := by
    obtain ⟨above, below, _⟩ := saturate_nearest (Int.le_trans before behind) x
    exact saturate_of_inside above below

theorem snap_limit : Limit (Reach.snap low high) where
  toward x := by
    unfold Toward Reach.snap Reach.side
    split
    · omega
    · split <;> omega
  again x := by
    unfold Reach.snap Reach.side
    split
    · rw [if_neg (by omega), if_neg (by omega)]
    · split
      · rw [if_neg (by omega), if_neg (by omega)]
      · rfl

theorem snapChroma_cases (x : Int) :
    2 * x < low - 19 * 8 ∧ Reach.snapChroma low high x = (low - 16 * 8) / 2 ∨
      high + 18 * 8 < 2 * x ∧ Reach.snapChroma low high x = (high + 16 * 8) / 2 ∨
      low - 19 * 8 ≤ 2 * x ∧ 2 * x ≤ high + 18 * 8 ∧ Reach.snapChroma low high x = x := by
  unfold Reach.snapChroma Reach.side
  dsimp only
  split
  · rw [if_neg (by omega)]
    omega
  · split <;> omega

theorem snapChroma_limit : Limit (Reach.snapChroma low high) where
  toward x := by
    have cases := snapChroma_cases before behind x
    unfold Toward
    omega
  again x := by
    have once := snapChroma_cases before behind x
    have twice := snapChroma_cases before behind (Reach.snapChroma low high x)
    omega

end Component

/-- What lies on the way to zero fits a word where its origin did. -/
theorem Toward.toInt_ofInt {a : Int16} {y : Int} (toward : Toward a.toInt y) :
    (Int16.ofInt y).toInt = y := by
  have bounds := MotionVector.toInt_bounds a
  unfold Toward at toward
  exact MotionVector.toInt_ofInt (by omega) (by omega)

namespace MotionVector

def AtMost (v w : MotionVector) : Prop := v.row.toInt ≤ w.row.toInt ∧ v.col.toInt ≤ w.col.toInt

def limited (f g : Int → Int) (v : MotionVector) : MotionVector :=
  .ofInts (f v.row.toInt) (g v.col.toInt)

/-- Vectors are limited as integers are: nothing is lost where the results become words again. -/
structure LimitedAs (f g : Int → Int) (clamp : MotionVector → MotionVector) : Prop where
  row : ∀ v, (clamp v).row.toInt = f v.row.toInt
  col : ∀ v, (clamp v).col.toInt = g v.col.toInt
  again : ∀ v, clamp (clamp v) = clamp v
  toward : ∀ v, Toward v.row.toInt (clamp v).row.toInt ∧ Toward v.col.toInt (clamp v).col.toInt

theorem limitedAs_limited {f g : Int → Int} (vertical : Limit f) (horizontal : Limit g) :
    LimitedAs f g (limited f g) := by
  have row (v : MotionVector) : (limited f g v).row.toInt = f v.row.toInt :=
    (vertical.toward v.row.toInt).toInt_ofInt
  have col (v : MotionVector) : (limited f g v).col.toInt = g v.col.toInt :=
    (horizontal.toward v.col.toInt).toInt_ofInt
  refine ⟨row, col, ?again, ?toward⟩
  case again =>
    intro v
    rw [limited, row, col, vertical.again, horizontal.again]
    rfl
  case toward =>
    intro v
    rw [row, col]
    exact ⟨vertical.toward _, horizontal.toward _⟩

end MotionVector

namespace Reach

open MotionVector

variable {reach : Reach} (around : reach.Around)

include around

theorem Around.clamp_limitedAs : LimitedAs (saturate (reach.top - side) (reach.bottom + side))
    (saturate (reach.left - side) (reach.right + side)) reach.clamp := by
  unfold Around side at *
  exact limitedAs_limited (saturate_limit (by omega) (by omega))
    (saturate_limit (by omega) (by omega))

theorem Around.clampToBorder_limitedAs :
    LimitedAs (snap reach.top reach.bottom) (snap reach.left reach.right) reach.clampToBorder := by
  obtain ⟨left, right, top, bottom⟩ := around
  exact limitedAs_limited (snap_limit top bottom) (snap_limit left right)

theorem Around.clampChromaToBorder_limitedAs :
    LimitedAs (snapChroma reach.top reach.bottom) (snapChroma reach.left reach.right)
      reach.clampChromaToBorder := by
  obtain ⟨left, right, top, bottom⟩ := around
  exact limitedAs_limited (snapChroma_limit top bottom) (snapChroma_limit left right)

theorem Around.clamp_nearest (v : MotionVector) :
    Nearest (reach.top - side) (reach.bottom + side) v.row.toInt (reach.clamp v).row.toInt ∧
      Nearest (reach.left - side) (reach.right + side) v.col.toInt (reach.clamp v).col.toInt := by
  rw [around.clamp_limitedAs.row, around.clamp_limitedAs.col]
  unfold Around side at *
  exact ⟨saturate_nearest (by omega) _, saturate_nearest (by omega) _⟩

theorem Around.clamp_mono {v w : MotionVector} (le : v.AtMost w) :
    (reach.clamp v).AtMost (reach.clamp w) := by
  unfold AtMost
  rw [around.clamp_limitedAs.row, around.clamp_limitedAs.row, around.clamp_limitedAs.col,
    around.clamp_limitedAs.col]
  exact ⟨saturate_mono le.1, saturate_mono le.2⟩

omit around

theorem clamp_of_holds {v : MotionVector} (holds : reach.Holds v) : reach.clamp v = v := by
  obtain ⟨left, right, top, bottom⟩ := holds
  unfold clamp ofInts
  rw [saturate_of_inside top bottom, saturate_of_inside left right, Int16.ofInt_toInt,
    Int16.ofInt_toInt]

section Picture

variable {rows cols : Nat} (tall : rows ≤ 1024) (wide : cols ≤ 1024) (r : Fin rows) (c : Fin cols)

include tall wide

theorem ofPosition_words : (ofPosition r c rows cols).words = ofPosition r c rows cols := by
  have := r.isLt
  have := c.isLt
  unfold words ofPosition side
  dsimp only
  rw [Int.bmod_eq_of_le (by omega) (by omega), Int.bmod_eq_of_le (by omega) (by omega),
    Int.bmod_eq_of_le (by omega) (by omega), Int.bmod_eq_of_le (by omega) (by omega)]

/-- In a picture of at most 1024 by 1024 macroblocks the distances to the edges are exact, although
    from 256 macroblocks on a limit can lie beyond what a vector holds. A candidate is limited to
    the nearest vector that the limits allow. This is inside, it is the candidate itself if that is
    inside, and it keeps the order of candidates. The limits at the border, of luma and of chroma,
    like that of candidates never lead away from zero, change nothing when they are applied again,
    and lose nothing when their results become words. -/
theorem clamps_are_exact :
    let reach := ofPosition r c rows cols
    reach.words = reach ∧
    (32767 < reach.right + side ↔ c.val + 256 ≤ cols) ∧
    (32767 < reach.bottom + side ↔ r.val + 256 ≤ rows) ∧
    (∀ v, Nearest (reach.top - side) (reach.bottom + side) v.row.toInt (reach.clamp v).row.toInt ∧
      Nearest (reach.left - side) (reach.right + side) v.col.toInt (reach.clamp v).col.toInt) ∧
    (∀ v, reach.outside (reach.clamp v) = false) ∧
    (∀ v, reach.outside v = false → reach.clamp v = v) ∧
    (∀ v w, v.AtMost w → (reach.clamp v).AtMost (reach.clamp w)) ∧
    LimitedAs (saturate (reach.top - side) (reach.bottom + side))
      (saturate (reach.left - side) (reach.right + side)) reach.clamp ∧
    LimitedAs (snap reach.top reach.bottom) (snap reach.left reach.right) reach.clampToBorder ∧
    LimitedAs (snapChroma reach.top reach.bottom) (snapChroma reach.left reach.right)
      reach.clampChromaToBorder := by
  intro reach
  have around : reach.Around := ofPosition_around r c
  refine ⟨ofPosition_words tall wide r c, ?right, ?bottom, around.clamp_nearest, ?inside, ?kept,
    fun v w => around.clamp_mono, around.clamp_limitedAs, around.clampToBorder_limitedAs,
    around.clampChromaToBorder_limitedAs⟩
  case right =>
    change 32767 < side * ((cols : Int) - 1 - c) + side ↔ _
    unfold side
    omega
  case bottom =>
    change 32767 < side * ((rows : Int) - 1 - r) + side ↔ _
    unfold side
    omega
  case inside =>
    intro v
    rw [Bool.eq_false_iff, Ne, outside_iff, not_not]
    exact around.clamp v
  case kept =>
    intro v inside
    rw [Bool.eq_false_iff, Ne, outside_iff, not_not] at inside
    exact clamp_of_holds inside

end Picture

/-- In the first macroblock of the largest picture all three limits hold back the longest vector
    upward, and none the longest one to the right. -/
theorem largest_picture_clamps :
    (1024 ≤ 1024 ∧ 1024 ≤ 1024) ∧
      let reach := ofPosition 0 0 1024 1024
      let v : MotionVector := ⟨-32768, 32767⟩
      reach.right + side = 131072 ∧ reach.words = reach ∧
        (reach.clamp v).row.toInt = -128 ∧ (reach.clamp v).col.toInt = 32767 ∧
        (reach.clampToBorder v).row.toInt = -128 ∧ (reach.clampToBorder v).col.toInt = 32767 ∧
        (reach.clampChromaToBorder v).row.toInt = -64 ∧
        (reach.clampChromaToBorder v).col.toInt = 32767 := by
  obtain ⟨words, _, _, _, _, _, _, whole, border, chroma⟩ :=
    clamps_are_exact (Nat.le_refl 1024) (Nat.le_refl 1024) 0 0
  exact ⟨⟨Nat.le_refl _, Nat.le_refl _⟩, by decide, words, whole.row _, whole.col _, border.row _,
    border.col _, chroma.row _, chroma.col _⟩

end Reach

end Vp8
