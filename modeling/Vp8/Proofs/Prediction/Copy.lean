import Vp8.Proofs.Image.Continuation
import Vp8.Proofs.Prediction.Agreement
import Vp8.Proofs.Prediction.Border
import Vp8.Residual.Transform

/-!
Macroblocks that are copies. A zero vector predicts what the reference shows at the same place, and
coefficients that are all zero add nothing to it.
-/
namespace Vp8

theorem foldBlocks_keeps {α β : Type} {n : Nat} {f : α → Fin n → Fin n → α} (observe : α → β)
    (keeps : ∀ a y x, observe (f a y x) = observe a) (a : α) :
    observe (foldBlocks n f a) = observe a := by
  unfold foldBlocks
  apply foldl_keeps observe
  intro a y
  apply foldl_keeps observe
  intro a x
  exact keeps a y x

namespace Block

theorem get_zero (k : Fin 16) : zero.get k = 0 := by
  revert k
  decide

theorem addTo_zero (r c : Fin 4) (pixel : UInt8) : zero.addTo r c pixel = pixel := by
  have bound := pixel.toNat_lt
  have kept : saturate 0 255 (pixel.toNat : Int) = pixel.toNat := by
    unfold saturate
    omega
  unfold addTo clampByte
  rw [get_zero, Int.add_zero, kept]
  simp

theorem dequantize_zero (factors : Block) : dequantize factors zero = zero := by
  apply Vector.ext
  intro k lt
  simp [dequantize, zero]

theorem residual_zero : zero.residual = zero := by decide +kernel

end Block

namespace BlockGrid

variable {n : Nat}

theorem get_zero (y x : Fin n) : ((zero n).get y).get x = Block.zero := by
  simp [zero, Vector.get]

theorem map_zero {f : Block → Block} (kept : f .zero = .zero) : map f (zero n) = zero n := by
  unfold map zero
  rw [Vector.map_replicate, Vector.map_replicate, kept]

end BlockGrid

def Residual.zero : Residual := ⟨.zero 4, .zero 2, .zero 2⟩

/-- Coefficients that are all zero have a residual of zeros, whatever the factors. -/
theorem Coefficients.residual_zero (f : Factors) (hasSecond : Bool) :
    (zero.dequantize f hasSecond).residual = .zero := by
  have blocks (n : Nat) (factors : Block) :
      BlockGrid.map (Block.dequantize factors) (.zero n) = .zero n :=
    BlockGrid.map_zero (Block.dequantize_zero factors)
  have spread : spreadSecond .zero (.zero 4) = .zero 4 := by decide +kernel
  have luma : (if hasSecond then spreadSecond (Block.dequantize f.second zero.second)
      (BlockGrid.map (Block.dequantize f.luma) zero.luma)
      else BlockGrid.map (Block.dequantize f.luma) zero.luma) = .zero 4 := by
    unfold zero
    dsimp only
    rw [blocks, Block.dequantize_zero, spread, ite_self]
  unfold residual dequantize
  dsimp only
  rw [luma]
  unfold zero
  dsimp only
  rw [blocks, BlockGrid.map_zero Block.residual_zero, BlockGrid.map_zero Block.residual_zero]
  rfl

theorem MotionVector.chroma_zero (fullPixel : Bool) : chroma fullPixel .zero = .zero := by
  cases fullPixel <;> decide

namespace Plane

variable {width height border : Nat} {p reference : Plane width height border}

theorem predictMotion_zero (reference : Plane width height border)
    (visible : Visible width height) (kind : Interpolation) (x y : Int) {w h r c : Nat}
    (row : r < h) (col : c < w) (inner : Inner width height (x + c) (y + r)) :
    (reference.predictMotion kind x y w h .zero)[r][c] = reference.sample (x + c) (y + r) := by
  have whole : MotionVector.whole 0 = 0 := rfl
  have phase : MotionVector.phase 0 = 0 := rfl
  rw [predictMotion_getElem _ visible]
  simp only [MotionVector.zero, whole, phase, Interpolation.tap_zero, Int.add_zero]
  exact reference.extended_inner visible inner

def Done (width left top side : Nat) : Region := fun x y =>
  0 ≤ x ∧ x < width ∧ 0 ≤ y ∧ (y < top ∨ y < top + side ∧ x < left)

theorem Done.nextRow {columns side row : Nat} {x y : Int}
    (done : Done (side * columns) (side * 0) (side * (row + 1)) side x y) :
    Done (side * columns) (side * columns) (side * row) side x y := by
  rw [Nat.mul_zero, Nat.mul_succ] at done
  unfold Done at done ⊢
  omega

theorem Agree.copyMotion {left top side : Nat}
    (agree : Agree (Done width left top side) p reference)
    (kind : Interpolation) (right : left + side ≤ width) (bottom : top + side ≤ height)
    (some : 0 < side) (covers : Covers width height border left top side side) :
    Agree (Done width (left + side) top side)
      (p.copyMotion reference kind left top side side .zero covers) reference := by
  have visible : Visible width height := ⟨by omega, by omega⟩
  intro x y member
  unfold Plane.copyMotion Plane.store
  rw [sample_update p (by unfold Encloses; omega)]
  unfold Done at member
  split
  · rename_i block
    unfold InBlock at block
    have inner : Inner width height ((left : Int) + (x - left).toNat)
        ((top : Int) + (y - top).toNat) := by
      unfold Inner
      omega
    refine (predictMotion_zero reference visible kind left top _ _ inner).trans ?_
    congr 1 <;> omega
  · rename_i outside
    apply agree
    unfold InBlock at outside
    unfold Done
    omega

theorem sample_addBlocks_zero (p : Plane width height border) {x y : Int} {n : Nat}
    (inside : Encloses width height border x y (4 * n) (4 * n))
    (covers : Covers width height border x y (4 * n) (4 * n)) (u v : Int) :
    (p.addBlocks x y (.zero n) covers).sample u v = p.sample u v := by
  unfold addBlocks
  apply foldBlocks_keeps fun p : Plane width height border => p.sample u v
  intro p j i
  unfold addBlock
  rw [BlockGrid.get_zero, sample_update p (by unfold Encloses at inside ⊢; omega)]
  split
  · exact Block.addTo_zero _ _ _
  · rfl

theorem sample_extendRowRight (p : Plane width height border) {row : Int} (wide : 4 ≤ border)
    (inside : 0 ≤ row ∧ row < height) (room : Covers width height border (width - 1) row 5 1)
    (u v : Int) :
    (p.extendRowRight row room).sample u v =
      if InBlock (width - 1) row 5 1 u v then p.sample (width - 1) row else p.sample u v := by
  have last : Encloses width height border (width - 1) row 1 1 := by
    unfold Encloses
    omega
  unfold extendRowRight fill
  dsimp only
  rw [sample_update p (by unfold Encloses; omega), pixel_eq_sample p last]
  simp only [dite_eq_ite]

theorem sample_extendRowRight_inner (p : Plane width height border) {row : Int} (wide : 4 ≤ border)
    (inside : 0 ≤ row ∧ row < height) (room : Covers width height border (width - 1) row 5 1)
    {u v : Int} (inner : Inner width height u v) :
    (p.extendRowRight row room).sample u v = p.sample u v := by
  rw [sample_extendRowRight p wide inside room]
  split
  · rename_i block
    unfold Inner at inner
    congr 1 <;> omega
  · rfl

end Plane

structure Macroblock.Still (m : Macroblock) (reference : Reference) : Prop where
  mode : m.mode = .zero
  vector : m.vector = .zero
  unlimited : m.needsClamp = false
  reference : m.reference = reference

namespace Picture

variable {rows cols : Nat} {r : Fin rows} {c : Fin cols} {p q reference : Picture rows cols}

structure Copied (reference : Picture rows cols) (r c : Nat) (p : Picture rows cols) : Prop where
  luma : p.luma.Agree (Plane.Done (16 * cols) (16 * c) (16 * r) 16) reference.luma
  cb : p.cb.Agree (Plane.Done (8 * cols) (8 * c) (8 * r) 8) reference.cb
  cr : p.cr.Agree (Plane.Done (8 * cols) (8 * c) (8 * r) 8) reference.cr

theorem Copied.predictInter (copied : Copied reference r c p) (kind : Interpolation)
    (fullPixel : Bool) (fits : Fits rows cols r c) {m : Macroblock} {a : Reference}
    (still : m.Still a) :
    Copied reference r (c + 1) (p.predictInter reference kind fullPixel fits m) := by
  have split : m.mode ≠ .split := by
    rw [still.mode]
    decide
  unfold Picture.predictInter
  dsimp only
  rw [if_neg split]
  unfold Macroblock.limit predictWhole
  rw [still.unlimited, if_neg Bool.false_ne_true, still.vector, MotionVector.chroma_zero]
  exact {
    luma := copied.luma.copyMotion kind (by omega) (by omega) (by decide) fits.1
    cb := copied.cb.copyMotion kind (by omega) (by omega) (by decide) fits.2
    cr := copied.cr.copyMotion kind (by omega) (by omega) (by decide) fits.2 }

theorem Copied.addResidual {k : Nat} (copied : Copied reference r k p) (fits : Fits rows cols r c) :
    Copied reference r k (p.addResidual fits .zero) where
  luma x y done := by
    have kept := p.luma.sample_addBlocks_zero (n := 4) (x := (16 * c.val : Nat))
      (y := (16 * r.val : Nat)) (by unfold Plane.Encloses; omega) fits.1 x y
    exact kept.trans (copied.luma x y done)
  cb x y done := by
    have kept := p.cb.sample_addBlocks_zero (n := 2) (x := (8 * c.val : Nat))
      (y := (8 * r.val : Nat)) (by unfold Plane.Encloses; omega) fits.2 x y
    exact kept.trans (copied.cb x y done)
  cr x y done := by
    have kept := p.cr.sample_addBlocks_zero (n := 2) (x := (8 * c.val : Nat))
      (y := (8 * r.val : Nat)) (by unfold Plane.Encloses; omega) fits.2 x y
    exact kept.trans (copied.cr x y done)

/-- A macroblock that stands still and has no residual, or one of zeros, is copied. -/
theorem Copied.reconstruct (copied : Copied reference r c p) {s : Sources rows cols}
    {a : Reference} (source : s.picture? a = some reference) {m : Macroblock} (still : m.Still a)
    {residual : Option Residual} (blank : ∀ x, residual = some x → x = .zero)
    (done : p.reconstruct s r c m residual = .ok q) : Copied reference r (c + 1) q := by
  have other : a ≠ .current := by
    rintro rfl
    contradiction
  have found : s.find m.reference = .ok (some reference) := by
    unfold Sources.find
    rw [still.reference, if_neg other, source]
  unfold Picture.reconstruct at done
  rw [found] at done
  cases done
  unfold reconstructFrom
  dsimp only
  have predicted := copied.predictInter s.interpolation s.fullPixel
    ⟨Plane.lumaFits r c, Plane.chromaFits r c⟩ still
  cases residual with
  | none => exact predicted
  | some x =>
    rw [blank x rfl]
    exact predicted.addResidual ⟨Plane.lumaFits r c, Plane.chromaFits r c⟩

end Picture

end Vp8
