import Vp8.Proofs.Prediction.Agreement
import Vp8.Proofs.Prediction.Interpolation

/-!
Split macroblocks whose parts all move alike. Small blocks with one vector show together what one
large block with this vector shows, and both ways to round the chroma vector come to the same, so
that such a macroblock is predicted like one that is not split.
-/
namespace Vp8

namespace MotionVector

/-- An eighth of four times a component is half of it, and away from zero in the same way. -/
theorem eighth_same (fullPixel : Bool) (a : Int16) :
    eighth fullPixel (a.toInt + a.toInt + a.toInt + a.toInt) = halve fullPixel a := by
  unfold eighth halve
  rcases Int.lt_or_le a.toInt 0 with negative | positive
  · have four : a.toInt + a.toInt + a.toInt + a.toInt + 4 + -8 = 4 * (a.toInt + -1) := by omega
    have sum : a.toInt + a.toInt + a.toInt + a.toInt < 0 := by omega
    rw [if_pos negative, if_pos sum, four]
    exact congrArg _ (Int.mul_tdiv_mul_of_pos (c := 2) _ (by decide : (0 : Int) < 4))
  · have four : a.toInt + a.toInt + a.toInt + a.toInt + 4 + 0 = 4 * (a.toInt + 1) := by omega
    have sum : ¬ a.toInt + a.toInt + a.toInt + a.toInt < 0 := by omega
    rw [if_neg (Int.not_lt.mpr positive), if_neg sum, four]
    exact congrArg _ (Int.mul_tdiv_mul_of_pos (c := 2) _ (by decide : (0 : Int) < 4))

theorem chromaOfSplit_same (fullPixel : Bool) (v : MotionVector) :
    chromaOfSplit fullPixel v v v v = v.chroma fullPixel := by
  simp only [chromaOfSplit, chroma, eighth_same]

end MotionVector

namespace Plane

section Blocks

variable {width height border wide high margin n : Nat} {x y : Int}

theorem filled_iff (u t : Int) : Filled x y n n 0 u t ↔ InBlock x y (4 * n) (4 * n) u t := by
  unfold Filled InBlock
  omega

def copyBlocks (p : Plane width height border) (reference : Plane wide high margin)
    (kind : Interpolation) (v : MotionVector)
    (covers : Covers width height border x y (4 * n) (4 * n)) : Plane width height border :=
  foldBlocks n (fun p j i => p.copyMotion reference kind (x + (4 * i.val : Nat))
    (y + (4 * j.val : Nat)) 4 4 v (covers.part i j)) p

theorem copyBlocks_painted (p : Plane width height border) (reference : Plane wide high margin)
    (visible : Visible wide high) (kind : Interpolation) (v : MotionVector)
    (inside : Encloses width height border x y (4 * n) (4 * n))
    (covers : Covers width height border x y (4 * n) (4 * n)) :
    Painted (InBlock x y (4 * n) (4 * n)) (reference.interpolated visible kind v) p
      (p.copyBlocks reference kind v covers) := by
  refine Painted.congr ?_ filled_iff
  -- the blocks in front of the next one are painted
  apply foldBlocks_invariant fun j i q =>
    Painted (Filled x y n j i) (reference.interpolated visible kind v) p q
  · intro j i q painted
    have place :
        Encloses width height border (x + (4 * i.val : Nat)) (y + (4 * j.val : Nat)) 4 4 := by
      unfold Encloses at inside ⊢
      omega
    have block := q.copyMotion_painted reference visible kind v place (covers.part i j)
    refine (painted.join block).congr fun u t => ?_
    unfold Filled InBlock
    omega
  · intro j q painted
    refine painted.congr fun u t => ?_
    unfold Filled
    omega
  · refine (Painted.nothing p).congr fun u t => ?_
    simp only [Filled, false_iff]
    omega

theorem copyBlocks_eq (p : Plane width height border) (reference : Plane wide high margin)
    (visible : Visible wide high) (kind : Interpolation) (v : MotionVector)
    (inside : Encloses width height border x y (4 * n) (4 * n))
    (covers : Covers width height border x y (4 * n) (4 * n)) :
    p.copyBlocks reference kind v covers =
      p.copyMotion reference kind x y (4 * n) (4 * n) v covers :=
  (p.copyBlocks_painted reference visible kind v inside covers).unique
    (p.copyMotion_painted reference visible kind v inside covers)

end Blocks

variable {rows cols : Nat} {r : Fin rows} {c : Fin cols} {m : Macroblock} {v : MotionVector}

theorem predictSplitLuma_same (p reference : Plane (16 * cols) (16 * rows) 32)
    (kind : Interpolation) (reach : Reach) (fits : LumaFits rows cols r c)
    (free : m.needsClamp = false) (equal : ∀ k, m.vectors.get k = v) :
    p.predictSplitLuma reference kind reach fits m =
      p.copyMotion reference kind (16 * c : Nat) (16 * r : Nat) 16 16 v fits := by
  have blocks : p.predictSplitLuma reference kind reach fits m =
      p.copyBlocks (n := 4) reference kind v fits := by
    simp [predictSplitLuma, copyBlocks, Macroblock.limit, free, equal]
  rw [blocks]
  exact copyBlocks_eq p reference (visible_planes (by decide) r c) kind v
    (by unfold Encloses; omega) fits

theorem predictSplitChroma_same (p reference : Plane (8 * cols) (8 * rows) 16)
    (kind : Interpolation) (fullPixel : Bool) (reach : Reach) (fits : ChromaFits rows cols r c)
    (free : m.needsClamp = false) (equal : ∀ k, m.vectors.get k = v) :
    p.predictSplitChroma reference kind fullPixel reach fits m =
      p.copyMotion reference kind (8 * c : Nat) (8 * r : Nat) 8 8 (v.chroma fullPixel) fits := by
  have quarter (y x : Fin 2) : m.quarterVector fullPixel y x = v.chroma fullPixel := by
    have each (k : Nat) (lt : k < 16) : m.vectors[k] = v := equal ⟨k, lt⟩
    simp only [Macroblock.quarterVector, each, MotionVector.chromaOfSplit_same]
  have blocks : p.predictSplitChroma reference kind fullPixel reach fits m =
      p.copyBlocks (n := 2) reference kind (v.chroma fullPixel) fits := by
    simp [predictSplitChroma, copyBlocks, Macroblock.limit, free, quarter]
  rw [blocks]
  exact copyBlocks_eq p reference (visible_planes (by decide) r c) kind _
    (by unfold Encloses; omega) fits

end Plane

namespace Picture

variable {rows cols : Nat} {r : Fin rows} {c : Fin cols} {m : Macroblock} {v : MotionVector}

/-- Limits do not show, so that a macroblock is predicted as it is without them. -/
theorem predictInter_free (p reference : Picture rows cols) (kind : Interpolation)
    (fullPixel : Bool) (fits : Fits rows cols r c) (m : Macroblock) :
    p.predictInter reference kind fullPixel fits m =
      p.predictInter reference kind fullPixel fits { m with needsClamp := false } := by
  cases limited : m.needsClamp with
  | false => rw [← limited]
  | true =>
    rw [← predictInter_limited, ← limited]

theorem predictInter_split (p reference : Picture rows cols) (kind : Interpolation)
    (fullPixel : Bool) (fits : Fits rows cols r c) (split : m.mode = .split)
    (equal : ∀ k, m.vectors.get k = v) :
    p.predictInter reference kind fullPixel fits m =
      p.predictWhole reference kind fullPixel v fits := by
  have unlimited (k : Fin 16) : { m with needsClamp := false }.vectors.get k = v := equal k
  rw [predictInter_free]
  unfold predictInter predictSplit predictWhole
  dsimp only
  rw [if_pos split, Plane.predictSplitLuma_same _ _ _ _ _ rfl unlimited,
    Plane.predictSplitChroma_same p.cb _ _ _ _ _ rfl unlimited,
    Plane.predictSplitChroma_same p.cr _ _ _ _ _ rfl unlimited]

theorem predictInter_whole (p reference : Picture rows cols) (kind : Interpolation)
    (fullPixel : Bool) (fits : Fits rows cols r c) (whole : m.mode ≠ .split)
    (vector : m.vector = v) :
    p.predictInter reference kind fullPixel fits m =
      p.predictWhole reference kind fullPixel v fits := by
  rw [predictInter_free]
  simp [predictInter, whole, Macroblock.limit, vector]

/-- Where all parts of a split macroblock have one vector, it is reconstructed from the same pixels
    as a macroblock with this vector that is not split, whether either of them limits its vectors or
    not. In particular a chroma vector comes out of four equal luma vectors as out of one. -/
theorem equal_parts_predict_whole (p : Picture rows cols) (s : Sources rows cols) (r : Fin rows)
    (c : Fin cols) {m n : Macroblock} {v : MotionVector} (residual : Option Residual)
    (inter : m.reference ≠ .current) (same : n.reference = m.reference) (split : m.mode = .split)
    (equal : ∀ k, m.vectors.get k = v) (whole : n.mode ≠ .split) (vector : n.vector = v) :
    p.reconstruct s r c m residual = p.reconstruct s r c n residual ∧
      ∀ fullPixel w, MotionVector.chromaOfSplit fullPixel w w w w = w.chroma fullPixel := by
  refine ⟨?_, MotionVector.chromaOfSplit_same⟩
  unfold reconstruct Sources.find
  rw [same, if_neg inter]
  cases s.picture? m.reference with
  | none => dsimp only [bind, Except.bind]
  | some reference =>
    dsimp only [bind, Except.bind, reconstructFrom]
    rw [predictInter_split _ _ _ _ _ split equal, predictInter_whole _ _ _ _ _ whole vector]

def slope : Picture 1 2 :=
  { blank 1 2 with
    luma := .ofFn fun x y _ => (7 * x + 3 * y).toNat.toUInt8
    cb := .ofFn fun x y _ => (5 * x + 11 * y).toNat.toUInt8 }

/-- Between pixels to the right, and from so far above the picture that it may be limited. -/
def slanted : MotionVector := ⟨-237, 13⟩

def divided : Macroblock :=
  { Macroblock.default with
    mode := .split, reference := .golden, needsClamp := true, vectors := .replicate 16 slanted }

def undivided : Macroblock :=
  { Macroblock.default with mode := .new, reference := .golden, vector := slanted }

theorem slanted_parts_predict_whole :
    let s : Sources 1 2 := ⟨none, some slope, none, .sixTap, true⟩
    (∀ k, divided.vectors.get k = slanted) ∧
      (blank 1 2).reconstruct s 0 1 divided none = (blank 1 2).reconstruct s 0 1 undivided none ∧
      MotionVector.chromaOfSplit true slanted slanted slanted slanted = ⟨-120, 0⟩ := by
  intro s
  have equal : ∀ k, divided.vectors.get k = slanted := by decide
  obtain ⟨same, chroma⟩ := (blank 1 2).equal_parts_predict_whole s 0 1 (m := divided)
    (n := undivided) none (by decide) rfl rfl equal (by decide) rfl
  exact ⟨equal, same, (chroma true slanted).trans (by decide)⟩

end Picture

end Vp8
