import Vp8.Prediction.Macroblock

/-!
Vectors that point far out of the picture. A picture goes on with its outermost pixels there, and
filters leave a line of equal pixels as it is, so that one such vector predicts what any other does:
to limit the vectors of a macroblock never changes a pixel.
-/
namespace Vp8

namespace Interpolation

def tap (kind : Interpolation) (f : Fin 8) (line : Int → UInt8) (i : Int) : UInt8 :=
  match kind with
  | .sixTap => applySix (sixTapFilters.get f) (line (i - 2)) (line (i - 1)) (line i) (line (i + 1))
      (line (i + 2)) (line (i + 3))
  | .bilinear => applyTwo (bilinearFilters.get f) (line i) (line (i + 1))

theorem sixTapFilters_sum (f : Fin 8) :
    (sixTapFilters.get f).get 0 + (sixTapFilters.get f).get 1 + (sixTapFilters.get f).get 2 +
      (sixTapFilters.get f).get 3 + (sixTapFilters.get f).get 4 + (sixTapFilters.get f).get 5 =
      128 := by
  revert f
  decide

theorem bilinearFilters_sum (f : Fin 8) :
    (bilinearFilters.get f).get 0 + (bilinearFilters.get f).get 1 = 128 := by
  revert f
  decide

theorem roundTaps_pixel (v : UInt8) : roundTaps (128 * v.toNat) = v := by
  have bound := v.toNat_lt
  have mean : saturate 0 255 ((128 * (v.toNat : Int) + 64) / 128) = v.toNat := by
    unfold saturate
    omega
  simp [roundTaps, clampByte, mean]

theorem applySix_flat (f : Fin 8) (v : UInt8) : applySix (sixTapFilters.get f) v v v v v v = v := by
  have sum := congrArg (· * (v.toNat : Int)) (sixTapFilters_sum f)
  simp only [Int.add_mul] at sum
  exact (congrArg roundTaps sum).trans (roundTaps_pixel v)

theorem applyTwo_flat (f : Fin 8) (v : UInt8) : applyTwo (bilinearFilters.get f) v v = v := by
  have sum := congrArg (· * (v.toNat : Int)) (bilinearFilters_sum f)
  simp only [Int.add_mul] at sum
  exact (congrArg roundTaps sum).trans (roundTaps_pixel v)

theorem tap_flat (kind : Interpolation) (f : Fin 8) {line : Int → UInt8} {i : Int} {v : UInt8}
    (flat : ∀ j, i - 2 ≤ j → j ≤ i + 3 → line j = v) : tap kind f line i = v := by
  cases kind with
  | sixTap =>
    simp only [tap]
    rw [flat (i - 2) (by omega) (by omega), flat (i - 1) (by omega) (by omega),
      flat i (by omega) (by omega), flat (i + 1) (by omega) (by omega),
      flat (i + 2) (by omega) (by omega), flat (i + 3) (by omega) (by omega), applySix_flat]
  | bilinear =>
    simp only [tap]
    rw [flat i (by omega) (by omega), flat (i + 1) (by omega) (by omega), applyTwo_flat]

@[simp] theorem tap_zero (kind : Interpolation) (line : Int → UInt8) (i : Int) :
    tap kind 0 line i = line i := by
  have six : sixTapFilters.get 0 = #v[0, 0, 128, 0, 0, 0] := rfl
  have two : bilinearFilters.get 0 = #v[128, 0] := rfl
  cases kind with
  | sixTap => simp [tap, applySix, six, roundTaps_pixel]
  | bilinear => simp [tap, applyTwo, two, roundTaps_pixel]

theorem sixTapRows_line {w h : Nat} (f : Fin 8) {source : Raster (w + 5) h} {line : Int → UInt8}
    {x : Int} {r : Nat} (lt : r < h)
    (shows : ∀ c (inside : c < w + 5), source[r][c] = line (x - 2 + c)) (c : Nat)
    (inside : c < w) :
    (sixTapRows (sixTapFilters.get f) source)[r][c] = tap .sixTap f line (x + c) := by
  simp only [sixTapRows, Vector.getElem_map, Vector.getElem_ofFn, shows, tap]
  congr 2 <;> omega

theorem sixTapColumns_line {w h : Nat} (f : Fin 8) {source : Raster w (h + 5)} {line : Int → UInt8}
    {y : Int} {c : Nat} (lt : c < w)
    (shows : ∀ r (inside : r < h + 5), source[r][c] = line (y - 2 + r)) (r : Nat)
    (inside : r < h) :
    (sixTapColumns (sixTapFilters.get f) source)[r][c] = tap .sixTap f line (y + r) := by
  simp only [sixTapColumns, Raster.ofFn, Vector.getElem_ofFn]
  change applySix _ source[r][c] source[r + 1][c] source[r + 2][c] source[r + 3][c] source[r + 4][c]
    source[r + 5][c] = _
  simp only [shows, tap]
  congr 2 <;> omega

theorem bilinearRows_line {w h : Nat} (f : Fin 8) {source : Raster (w + 1) h} {line : Int → UInt8}
    {x : Int} {r : Nat} (lt : r < h)
    (shows : ∀ c (inside : c < w + 1), source[r][c] = line (x + c)) (c : Nat) (inside : c < w) :
    (bilinearRows (bilinearFilters.get f) source)[r][c] = tap .bilinear f line (x + c) := by
  simp only [bilinearRows, Vector.getElem_map, Vector.getElem_ofFn, shows, tap]
  congr 2
  omega

theorem bilinearColumns_line {w h : Nat} (f : Fin 8) {source : Raster w (h + 1)}
    {line : Int → UInt8} {y : Int} {c : Nat} (lt : c < w)
    (shows : ∀ r (inside : r < h + 1), source[r][c] = line (y + r)) (r : Nat) (inside : r < h) :
    (bilinearColumns (bilinearFilters.get f) source)[r][c] = tap .bilinear f line (y + r) := by
  simp only [bilinearColumns, Raster.ofFn, Vector.getElem_ofFn]
  change applyTwo _ source[r][c] source[r + 1][c] = _
  simp only [shows, tap]
  congr 2
  omega

end Interpolation

namespace MotionVector

theorem phase_eq_zero {a : Int16} (whole : a.toInt % 8 = 0) : phase a = 0 := by
  apply Fin.ext
  simp [phase, whole]

theorem toInt_bounds (a : Int16) : -32768 ≤ a.toInt ∧ a.toInt ≤ 32767 := by
  have := a.le_toInt
  have := a.toInt_lt
  omega

theorem toInt_ofInt {x : Int} (low : -32768 ≤ x) (high : x ≤ 32767) : (Int16.ofInt x).toInt = x :=
  Int16.toInt_ofInt_of_le (by omega) (by omega)

def half (x : Int) : Int := if x < 0 then -((1 - x) / 2) else (x + 1) / 2

theorem halve_eq (fullPixel : Bool) (a : Int16) :
    halve fullPixel a = dropFraction fullPixel (half a.toInt) := by
  unfold halve half
  split
  · have turned : a.toInt + -1 = -(1 - a.toInt) := by omega
    rw [turned, Int.neg_tdiv, Int.tdiv_eq_ediv_of_nonneg (by omega)]
  · rw [Int.tdiv_eq_ediv_of_nonneg (by omega)]

theorem toInt_halve (fullPixel : Bool) (a : Int16) :
    (Int16.ofInt (halve fullPixel a)).toInt = dropFraction fullPixel (half a.toInt) := by
  have bounds := toInt_bounds a
  rw [halve_eq]
  unfold dropFraction half
  apply toInt_ofInt
  · split <;> split <;> omega
  · split <;> split <;> omega

theorem whole_halve (fullPixel : Bool) (a : Int16) :
    whole (.ofInt (halve fullPixel a)) = half a.toInt / 8 := by
  unfold whole
  rw [toInt_halve]
  unfold dropFraction
  split <;> omega

theorem phase_halve (fullPixel : Bool) {a : Int16} (even : half a.toInt % 8 = 0) :
    phase (.ofInt (halve fullPixel a)) = 0 := by
  apply phase_eq_zero
  rw [toInt_halve]
  unfold dropFraction
  split <;> omega

end MotionVector

namespace Plane

open Interpolation MotionVector

variable {width height border : Nat}

theorem window_getElem (p : Plane width height border) (visible : Visible width height) (x y : Int)
    {w h r c : Nat} (row : r < h) (col : c < w) :
    (p.window x y w h)[r][c] = p.extended visible (x + c) (y + r) := by
  unfold window
  rw [dif_pos visible]
  simp only [Raster.ofFn, Vector.getElem_ofFn]

def filterMotion (reference : Plane width height border) (kind : Interpolation) (x y : Int)
    (w h : Nat) (v : MotionVector) : Raster w h :=
  let x := x + whole v.col
  let y := y + whole v.row
  match kind with
  | .sixTap => sixTapColumns (sixTapFilters.get (phase v.row)) (sixTapRows
      (sixTapFilters.get (phase v.col)) (reference.window (x - 2) (y - 2) (w + 5) (h + 5)))
  | .bilinear => bilinearColumns (bilinearFilters.get (phase v.row)) (bilinearRows
      (bilinearFilters.get (phase v.col)) (reference.window x y (w + 1) (h + 1)))

/-- A pixel of a prediction: the lines around it are filtered, and then the column of what they
    have become. -/
theorem filterMotion_getElem (p : Plane width height border) (visible : Visible width height)
    (kind : Interpolation) (x y : Int) {w h r c : Nat} (v : MotionVector) (row : r < h)
    (col : c < w) :
    (p.filterMotion kind x y w h v)[r][c] =
      tap kind (phase v.row) (fun j =>
        tap kind (phase v.col) (fun i => p.extended visible i j) (x + whole v.col + c))
        (y + whole v.row + r) := by
  cases kind with
  | sixTap =>
    apply sixTapColumns_line _ col
    intro j inside
    apply sixTapRows_line _ inside
    intro i inside
    exact window_getElem p visible _ _ _ _
  | bilinear =>
    apply bilinearColumns_line _ col
    intro j inside
    apply bilinearRows_line _ inside
    intro i inside
    exact window_getElem p visible _ _ _ _

theorem predictMotion_getElem (p : Plane width height border) (visible : Visible width height)
    (kind : Interpolation) (x y : Int) {w h r c : Nat} (v : MotionVector) (row : r < h)
    (col : c < w) :
    (p.predictMotion kind x y w h v)[r][c] =
      tap kind (phase v.row) (fun j =>
        tap kind (phase v.col) (fun i => p.extended visible i j) (x + whole v.col + c))
        (y + whole v.row + r) := by
  unfold predictMotion
  dsimp only
  split
  · rename_i still
    simp only [still.1, still.2, tap_zero]
    exact window_getElem p visible _ _ row col
  · exact p.filterMotion_getElem visible kind x y v row col

def Continued (size : Nat) (line : Int → UInt8) : Prop :=
  ∀ i, line (clampCoordinate size i) = line i

section Continued

variable {size n : Nat} {line : Int → UInt8} {x : Int} {a b : Int16} {kind : Interpolation}

theorem Continued.first (continued : Continued size line) {i : Int} (before : i ≤ 0) :
    line i = line 0 := by
  have same : clampCoordinate size i = clampCoordinate size 0 := by
    unfold clampCoordinate saturate
    omega
  rw [← continued i, same, continued]

theorem Continued.last (continued : Continued size line) {i : Int} (behind : size ≤ i + 1) :
    line i = line (size - 1) := by
  have same : clampCoordinate size i = clampCoordinate size (size - 1) := by
    unfold clampCoordinate saturate
    omega
  rw [← continued i, same, continued]

/-- The component takes a block of `n` pixels at `x` so far back that it sees nothing but the first
    pixel of a line, with the three pixels behind it if they are looked at. -/
def Before (x : Int) (n : Nat) (a : Int16) : Prop :=
  x + whole a + n + 2 ≤ 0 ∨ phase a = 0 ∧ x + whole a + n ≤ 1

/-- The component takes a block so far on that it sees nothing but the last pixel, with the two
    pixels in front of it if they are looked at. -/
def Behind (size : Nat) (x : Int) (a : Int16) : Prop :=
  size + 1 ≤ x + whole a ∨ phase a = 0 ∧ size ≤ x + whole a + 1

theorem Before.far (far : x + a.toInt / 8 + n + 2 ≤ 0) : Before x n a := .inl far

theorem Before.still (still : a.toInt % 8 = 0) (near : x + a.toInt / 8 + n ≤ 1) : Before x n a :=
  .inr ⟨phase_eq_zero still, near⟩

theorem Behind.far (far : size + 1 ≤ x + a.toInt / 8) : Behind size x a := .inl far

theorem Behind.still (still : a.toInt % 8 = 0) (near : size ≤ x + a.toInt / 8 + 1) :
    Behind size x a := .inr ⟨phase_eq_zero still, near⟩

theorem Before.tap_eq (before : Before x n a) (continued : Continued size line) {c : Nat}
    (inside : c < n) : tap kind (phase a) line (x + whole a + c) = line 0 := by
  rcases before with far | ⟨still, near⟩
  · apply tap_flat
    intro j low high
    exact continued.first (by omega)
  · rw [still, tap_zero]
    exact continued.first (by omega)

theorem Behind.tap_eq (behind : Behind size x a) (continued : Continued size line) (c : Nat) :
    tap kind (phase a) line (x + whole a + c) = line (size - 1) := by
  rcases behind with far | ⟨still, near⟩
  · apply tap_flat
    intro j low high
    exact continued.last (by omega)
  · rw [still, tap_zero]
    exact continued.last (by omega)

/-- A block of `n` pixels at `x` is predicted from a line in the same way with either component. -/
def Interchangeable (kind : Interpolation) (size : Nat) (x : Int) (n : Nat) (a b : Int16) : Prop :=
  ∀ line, Continued size line → ∀ c, c < n →
    tap kind (phase a) line (x + whole a + c) = tap kind (phase b) line (x + whole b + c)

theorem Interchangeable.refl (a : Int16) : Interchangeable kind size x n a a :=
  fun _ _ _ _ => rfl

theorem Before.interchangeable (first : Before x n a) (second : Before x n b) :
    Interchangeable kind size x n a b := by
  intro line continued c inside
  rw [first.tap_eq continued inside, second.tap_eq continued inside]

theorem Behind.interchangeable (first : Behind size x a) (second : Behind size x b) :
    Interchangeable kind size x n a b := by
  intro line continued c _
  rw [first.tap_eq continued, second.tap_eq continued]

end Continued

theorem clampCoordinate_idem (size : Nat) (i : Int) :
    clampCoordinate size (clampCoordinate size i) = clampCoordinate size i := by
  unfold clampCoordinate saturate
  omega

theorem continued_row (p : Plane width height border) (visible : Visible width height) (j : Int) :
    Continued width fun i => p.extended visible i j := by
  intro i
  simp only [extended, clampCoordinate_idem]

theorem continued_column (p : Plane width height border) (visible : Visible width height)
    (filtered : (Int → UInt8) → UInt8) :
    Continued height fun j => filtered fun i => p.extended visible i j := by
  intro j
  simp only [extended, clampCoordinate_idem]

structure SamePrediction (kind : Interpolation) (width height : Nat) (x y : Int) (w h : Nat)
    (u v : MotionVector) : Prop where
  row : Interchangeable kind height y h u.row v.row
  col : Interchangeable kind width x w u.col v.col

section SamePrediction

variable {kind : Interpolation} {x y : Int} {w h : Nat} {u v : MotionVector}

theorem SamePrediction.predictMotion (same : SamePrediction kind width height x y w h u v)
    (visible : Visible width height) (reference : Plane width height border) :
    reference.predictMotion kind x y w h u = reference.predictMotion kind x y w h v := by
  apply Vector.ext
  intro r row
  apply Vector.ext
  intro c col
  rw [predictMotion_getElem _ visible, predictMotion_getElem _ visible]
  have across (j : Int) := same.col _ (reference.continued_row visible j) c col
  simp only [across]
  exact same.row _ (reference.continued_column visible fun line => tap kind _ line _) r row

theorem SamePrediction.copyMotion (same : SamePrediction kind width height x y w h u v)
    (visible : Visible width height) (p reference : Plane width height border)
    (inside : Covers width height border x y w h) :
    p.copyMotion reference kind x y w h u inside =
      p.copyMotion reference kind x y w h v inside := by
  unfold Plane.copyMotion
  rw [same.predictMotion visible]

end SamePrediction

end Plane

namespace Reach

open MotionVector Plane

variable {kind : Interpolation} {m count d n : Nat} {x : Int}

abbrev low (m : Nat) : Int := -(side * m)

abbrev high (count m : Nat) : Int := side * (count - 1 - m)

/-- To limit a luma component changes no prediction of a block inside the macroblock. -/
theorem snap_interchangeable (inside : m < count) (fits : d + n ≤ 16) (place : x = 16 * m + d)
    (a : Int16) :
    Interchangeable kind (16 * count) x n (.ofInt (snap (low m) (high count m) a.toInt)) a := by
  have bounds := toInt_bounds a
  unfold snap low high side
  split
  · rename_i far
    have kept : (Int16.ofInt (-(16 * 8 * m) - 16 * 8)).toInt = -(16 * 8 * m) - 16 * 8 :=
      toInt_ofInt (by omega) (by omega)
    exact (Before.still (by omega) (by omega)).interchangeable (.far (by omega))
  · split
    · rename_i far
      have kept : (Int16.ofInt (16 * 8 * (count - 1 - m) + 16 * 8)).toInt =
          16 * 8 * (count - 1 - m) + 16 * 8 := toInt_ofInt (by omega) (by omega)
      exact (Behind.still (by omega) (by omega)).interchangeable (.far (by omega))
    · rw [Int16.ofInt_toInt]
      exact .refl a

theorem halve_interchangeable (inside : m < count) (fullPixel : Bool) (place : x = 8 * m)
    (a : Int16) :
    Interchangeable kind (8 * count) x 8
      (.ofInt (halve fullPixel (.ofInt (snap (low m) (high count m) a.toInt))))
      (.ofInt (halve fullPixel a)) := by
  have bounds := toInt_bounds a
  unfold snap low high side
  split
  · rename_i far
    have limited : half (Int16.ofInt (-(16 * 8 * m) - 16 * 8)).toInt = -(8 * 8 * m) - 8 * 8 := by
      rw [toInt_ofInt (by omega) (by omega)]
      unfold half
      omega
    have original : half a.toInt ≤ -(8 * 8 * m) - 77 := by
      unfold half
      omega
    apply Before.interchangeable
    · right
      refine ⟨phase_halve _ (by omega), ?_⟩
      rw [whole_halve, limited]
      omega
    · left
      rw [whole_halve]
      omega
  · split
    · rename_i far
      have limited : half (Int16.ofInt (16 * 8 * (count - 1 - m) + 16 * 8)).toInt =
          8 * 8 * (count - 1 - m) + 8 * 8 := by
        rw [toInt_ofInt (by omega) (by omega)]
        unfold half
        omega
      have original : 8 * 8 * (count - 1 - m) + 73 ≤ half a.toInt := by
        unfold half
        omega
      apply Behind.interchangeable
      · right
        refine ⟨phase_halve _ (by omega), ?_⟩
        rw [whole_halve, limited]
        omega
      · left
        rw [whole_halve]
        omega
    · rw [Int16.ofInt_toInt]
      exact .refl _

/-- To limit a chroma component changes no prediction of a block inside the macroblock. -/
theorem snapChroma_interchangeable (inside : m < count) (fits : d + n ≤ 8) (place : x = 8 * m + d)
    (a : Int16) :
    Interchangeable kind (8 * count) x n
      (.ofInt (snapChroma (low m) (high count m) a.toInt)) a := by
  have bounds := toInt_bounds a
  unfold low high side
  by_cases before : 2 * a.toInt < -(16 * 8 * m) - 19 * 8
  · have limited : snapChroma (-(16 * 8 * m)) (16 * 8 * (count - 1 - m)) a.toInt =
        (-(16 * 8 * m) - 16 * 8) / 2 := by
      unfold snapChroma side
      rw [if_pos before, if_neg (by omega)]
    have kept : (Int16.ofInt ((-(16 * 8 * m) - 16 * 8) / 2)).toInt =
        (-(16 * 8 * m) - 16 * 8) / 2 := toInt_ofInt (by omega) (by omega)
    rw [limited]
    exact (Before.still (by omega) (by omega)).interchangeable (.far (by omega))
  · by_cases behind : 16 * 8 * (count - 1 - m) + 18 * 8 < 2 * a.toInt
    · have limited : snapChroma (-(16 * 8 * m)) (16 * 8 * (count - 1 - m)) a.toInt =
          (16 * 8 * (count - 1 - m) + 16 * 8) / 2 := by
        unfold snapChroma side
        rw [if_neg before, if_pos behind]
      have kept : (Int16.ofInt ((16 * 8 * (count - 1 - m) + 16 * 8) / 2)).toInt =
          (16 * 8 * (count - 1 - m) + 16 * 8) / 2 := toInt_ofInt (by omega) (by omega)
      rw [limited]
      exact (Behind.still (by omega) (by omega)).interchangeable (.far (by omega))
    · have free : snapChroma (-(16 * 8 * m)) (16 * 8 * (count - 1 - m)) a.toInt = a.toInt := by
        unfold snapChroma
        rw [if_neg before, if_neg behind]
      rw [free, Int16.ofInt_toInt]
      exact .refl a

variable {rows cols r c : Nat} {y : Int} {i j h w : Nat}

theorem clampToBorder_same (row : r < rows) (col : c < cols) (high : i + h ≤ 16)
    (wide : j + w ≤ 16) (top : y = 16 * r + i) (left : x = 16 * c + j) (v : MotionVector) :
    SamePrediction kind (16 * cols) (16 * rows) x y w h
      ((ofPosition r c rows cols).clampToBorder v) v :=
  ⟨snap_interchangeable row high top v.row, snap_interchangeable col wide left v.col⟩

theorem clampToBorder_chroma (row : r < rows) (col : c < cols) (fullPixel : Bool)
    (top : y = 8 * r) (left : x = 8 * c) (v : MotionVector) :
    SamePrediction kind (8 * cols) (8 * rows) x y 8 8
      (((ofPosition r c rows cols).clampToBorder v).chroma fullPixel) (v.chroma fullPixel) :=
  ⟨halve_interchangeable row fullPixel top v.row, halve_interchangeable col fullPixel left v.col⟩

theorem clampChromaToBorder_same (row : r < rows) (col : c < cols) (high : i + h ≤ 8)
    (wide : j + w ≤ 8) (top : y = 8 * r + i) (left : x = 8 * c + j) (v : MotionVector) :
    SamePrediction kind (8 * cols) (8 * rows) x y w h
      ((ofPosition r c rows cols).clampChromaToBorder v) v :=
  ⟨snapChroma_interchangeable row high top v.row, snapChroma_interchangeable col wide left v.col⟩

end Reach

theorem visible_planes {rows cols : Nat} {size : Nat} (positive : 0 < size) (r : Fin rows)
    (c : Fin cols) : Plane.Visible (size * cols) (size * rows) :=
  ⟨Nat.mul_pos positive c.pos, Nat.mul_pos positive r.pos⟩

namespace Plane

variable {rows cols : Nat} {r : Fin rows} {c : Fin cols}

theorem predictSplitLuma_limited (p reference : Plane (16 * cols) (16 * rows) 32)
    (kind : Interpolation) (fits : LumaFits rows cols r c) (m : Macroblock) :
    p.predictSplitLuma reference kind (.ofPosition r c rows cols) fits
        { m with needsClamp := true } =
      p.predictSplitLuma reference kind (.ofPosition r c rows cols) fits
        { m with needsClamp := false } := by
  unfold predictSplitLuma
  refine congrArg (foldBlocks 4 · p) ?_
  funext p y x
  have same : SamePrediction kind (16 * cols) (16 * rows) ((16 * c.val : Nat) + (4 * x.val : Nat))
      ((16 * r.val : Nat) + (4 * y.val : Nat)) 4 4 _ (m.vectors.get (Block.position y x)) :=
    Reach.clampToBorder_same (i := 4 * y) (j := 4 * x) r.isLt c.isLt (by omega) (by omega)
      (by omega) (by omega) _
  simp only [Macroblock.limit, if_true]
  exact same.copyMotion (visible_planes (by decide) r c) _ _ _

theorem predictSplitChroma_limited (p reference : Plane (8 * cols) (8 * rows) 16)
    (kind : Interpolation) (fullPixel : Bool) (fits : ChromaFits rows cols r c) (m : Macroblock) :
    p.predictSplitChroma reference kind fullPixel (.ofPosition r c rows cols) fits
        { m with needsClamp := true } =
      p.predictSplitChroma reference kind fullPixel (.ofPosition r c rows cols) fits
        { m with needsClamp := false } := by
  unfold predictSplitChroma
  refine congrArg (foldBlocks 2 · p) ?_
  funext p y x
  have same : SamePrediction kind (8 * cols) (8 * rows) ((8 * c.val : Nat) + (4 * x.val : Nat))
      ((8 * r.val : Nat) + (4 * y.val : Nat)) 4 4 _ (m.quarterVector fullPixel y x) :=
    Reach.clampChromaToBorder_same (i := 4 * y) (j := 4 * x) r.isLt c.isLt (by omega) (by omega)
      (by omega) (by omega) _
  simp only [Macroblock.limit, if_true]
  exact same.copyMotion (visible_planes (by decide) r c) _ _ _

end Plane

namespace Picture

variable {rows cols : Nat} {r : Fin rows} {c : Fin cols}

theorem predictWhole_limited (p reference : Picture rows cols) (kind : Interpolation)
    (fullPixel : Bool) (fits : Fits rows cols r c) (v : MotionVector) :
    p.predictWhole reference kind fullPixel ((Reach.ofPosition r c rows cols).clampToBorder v)
      fits = p.predictWhole reference kind fullPixel v fits := by
  have luma : Plane.SamePrediction kind (16 * cols) (16 * rows) (16 * c.val : Nat)
      (16 * r.val : Nat) 16 16 _ v :=
    Reach.clampToBorder_same (i := 0) (j := 0) r.isLt c.isLt (by omega) (by omega) (by omega)
      (by omega) v
  have chroma : Plane.SamePrediction kind (8 * cols) (8 * rows) (8 * c.val : Nat)
      (8 * r.val : Nat) 8 8 _ (v.chroma fullPixel) :=
    Reach.clampToBorder_chroma r.isLt c.isLt fullPixel (by omega) (by omega) v
  unfold predictWhole
  dsimp only
  rw [luma.copyMotion (visible_planes (by decide) r c),
    chroma.copyMotion (visible_planes (by decide) r c) p.cb,
    chroma.copyMotion (visible_planes (by decide) r c) p.cr]

theorem predictInter_limited (p reference : Picture rows cols) (kind : Interpolation)
    (fullPixel : Bool) (fits : Fits rows cols r c) (m : Macroblock) :
    p.predictInter reference kind fullPixel fits { m with needsClamp := true } =
      p.predictInter reference kind fullPixel fits { m with needsClamp := false } := by
  unfold predictInter
  dsimp only
  split
  · unfold predictSplit
    rw [Plane.predictSplitLuma_limited, Plane.predictSplitChroma_limited,
      Plane.predictSplitChroma_limited]
  · simp only [Macroblock.limit, if_true]
    exact p.predictWhole_limited reference kind fullPixel fits m.vector

theorem reconstructFrom_limited (p : Picture rows cols) (s : Sources rows cols)
    (reference : Option (Picture rows cols)) (fits : Fits rows cols r c) (m : Macroblock)
    (residual : Option Residual) :
    p.reconstructFrom s reference fits { m with needsClamp := true } residual =
      p.reconstructFrom s reference fits { m with needsClamp := false } residual := by
  cases reference with
  | none =>
    simp only [reconstructFrom, reconstructIntra, Plane.reconstructIntraLuma,
      Plane.reconstructIntraChroma]
  | some reference => simp only [reconstructFrom, predictInter_limited]

/-- Whether the vectors of a macroblock are limited or not, it is reconstructed from the same
    pixels: no vector that points far enough out of the picture to be limited sees anything else
    than what its limit sees. -/
theorem limiting_is_invisible (p : Picture rows cols) (s : Sources rows cols) (r : Fin rows)
    (c : Fin cols) (m : Macroblock) (residual : Option Residual) :
    p.reconstruct s r c { m with needsClamp := true } residual =
      p.reconstruct s r c { m with needsClamp := false } residual := by
  simp only [reconstruct, reconstructFrom_limited]

end Picture

end Vp8
