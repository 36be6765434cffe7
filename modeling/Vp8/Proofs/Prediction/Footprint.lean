import Vp8.Proofs.Prediction.Copy

/-!
What a macroblock leaves alone. However it is predicted, and whatever is added to the prediction,
its reconstruction writes to its own block in each plane and nowhere else.
-/
namespace Vp8

namespace Plane

variable {width height border w h n : Nat} {S T : Region} {p q s : Plane width height border}
  {x y : Int}

def Apart (x y : Int) (w h : Nat) : Region := fun u v => ¬ InBlock x y w h u v

theorem Agree.trans (first : Agree S p q) (second : Agree S q s) : Agree S p s := by
  intro u v member
  rw [first u v member, second u v member]

theorem update_apart (p : Plane width height border) (inside : Encloses width height border x y w h)
    (covers : Covers width height border x y w h) (f : Fin h → Fin w → UInt8 → UInt8) :
    Agree (Apart x y w h) p (p.update x y w h covers f) := by
  intro u v apart
  rw [sample_update p inside, dif_neg apart]

/-- What changes one block at a time changes nothing but the square of all blocks. -/
theorem foldBlocks_apart {f : Plane width height border → Fin n → Fin n → Plane width height border}
    (step : ∀ p j i, Agree (Apart (x + (4 * i.val : Nat)) (y + (4 * j.val : Nat)) 4 4) p (f p j i))
    (p : Plane width height border) :
    Agree (Apart x y (4 * n) (4 * n)) p (foldBlocks n f p) := by
  intro u v apart
  symm
  apply foldBlocks_keeps fun p : Plane width height border => p.sample u v
  intro p j i
  symm
  apply step
  intro block
  apply apart
  have := i.isLt
  have := j.isLt
  unfold InBlock at *
  omega

theorem Encloses.block (inside : Encloses width height border x y (4 * n) (4 * n)) (j i : Fin n) :
    Encloses width height border (x + (4 * i.val : Nat)) (y + (4 * j.val : Nat)) 4 4 := by
  have := i.isLt
  have := j.isLt
  unfold Encloses at *
  omega

theorem addBlocks_apart (p : Plane width height border) (residual : BlockGrid n)
    (inside : Encloses width height border x y (4 * n) (4 * n))
    (covers : Covers width height border x y (4 * n) (4 * n)) :
    Agree (Apart x y (4 * n) (4 * n)) p (p.addBlocks x y residual covers) := by
  apply foldBlocks_apart
  intro p j i
  exact p.update_apart (inside.block j i) _ _

theorem predictIntra_apart (p : Plane width height border)
    (row : Covers width height border (x - 1) (y - 1) (n + 1) 1)
    (column : Covers width height border (x - 1) (y - 1) 1 (n + 1))
    (inside : Encloses width height border x y n n) (covers : Covers width height border x y n n)
    (mode : Mode) (haveAbove haveLeft : Bool) :
    Agree (Apart x y n n) p (p.predictIntra x y n row column covers mode haveAbove haveLeft) :=
  p.update_apart inside covers _

theorem copyMotion_apart (p reference : Plane width height border) (kind : Interpolation)
    (v : MotionVector) (inside : Encloses width height border x y w h)
    (covers : Covers width height border x y w h) :
    Agree (Apart x y w h) p (p.copyMotion reference kind x y w h v covers) :=
  p.update_apart inside covers _

end Plane

namespace Plane

variable {rows cols : Nat} {r : Fin rows} {c : Fin cols}

theorem luma_enclosed (r : Fin rows) (c : Fin cols) :
    Encloses (16 * cols) (16 * rows) 32 (16 * c.val : Nat) (16 * r.val : Nat) 16 16 := by
  unfold Encloses
  omega

theorem chroma_enclosed (r : Fin rows) (c : Fin cols) :
    Encloses (8 * cols) (8 * rows) 16 (8 * c.val : Nat) (8 * r.val : Nat) 8 8 := by
  unfold Encloses
  omega

abbrev LumaApart (r c : Nat) : Region := Apart (16 * c : Nat) (16 * r : Nat) 16 16

abbrev ChromaApart (r c : Nat) : Region := Apart (8 * c : Nat) (8 * r : Nat) 8 8

section Luma

variable (p : Plane (16 * cols) (16 * rows) 32) (fits : LumaFits rows cols r c)

theorem reconstructSubblock_apart (mode : SubblockMode) (residual : Option Block) (y x : Fin 4) :
    Agree (Apart ((16 * c.val : Nat) + (4 * x.val : Nat)) ((16 * r.val : Nat) + (4 * y.val : Nat))
      4 4) p (p.reconstructSubblock fits mode residual y x) := by
  have place := Encloses.block (n := 4) (luma_enclosed r c) y x
  unfold reconstructSubblock
  cases residual with
  | none => exact p.update_apart place _ _
  | some b => exact (p.update_apart place _ _).trans (update_apart _ place _ _)

theorem reconstructSubblocks_apart (modes : Vector SubblockMode 16)
    (residual : Option (BlockGrid 4)) :
    Agree (LumaApart r c) p (p.reconstructSubblocks fits modes residual) := by
  apply foldBlocks_apart (n := 4)
  intro p y x
  exact p.reconstructSubblock_apart fits _ _ y x

theorem addLuma_apart (residual : Option (BlockGrid 4)) :
    Agree (LumaApart r c) p (residual.elim p (p.addLuma fits)) := by
  cases residual with
  | none => exact fun _ _ _ => rfl
  | some residual => exact p.addBlocks_apart (n := 4) residual (luma_enclosed r c) fits

theorem reconstructIntraLuma_apart (m : Macroblock) (residual : Option (BlockGrid 4)) :
    Agree (LumaApart r c) p (p.reconstructIntraLuma fits m residual) := by
  unfold reconstructIntraLuma
  split
  · exact p.reconstructSubblocks_apart fits _ _
  · exact (p.predictIntra_apart _ _ (luma_enclosed r c) _ _ _ _).trans
      (addLuma_apart _ fits residual)

theorem predictSplitLuma_apart (reference : Plane (16 * cols) (16 * rows) 32)
    (kind : Interpolation) (reach : Reach) (m : Macroblock) :
    Agree (LumaApart r c) p (p.predictSplitLuma reference kind reach fits m) := by
  apply foldBlocks_apart (n := 4)
  intro p y x
  exact p.copyMotion_apart _ _ _ (Encloses.block (n := 4) (luma_enclosed r c) y x) _

end Luma

section Chroma

variable (p : Plane (8 * cols) (8 * rows) 16) (fits : ChromaFits rows cols r c)

theorem addChroma_apart (residual : Option (BlockGrid 2)) :
    Agree (ChromaApart r c) p (residual.elim p (p.addChroma fits)) := by
  cases residual with
  | none => exact fun _ _ _ => rfl
  | some residual => exact p.addBlocks_apart (n := 2) residual (chroma_enclosed r c) fits

theorem reconstructIntraChroma_apart (m : Macroblock) (residual : Option (BlockGrid 2)) :
    Agree (ChromaApart r c) p (p.reconstructIntraChroma fits m residual) := by
  unfold reconstructIntraChroma
  exact (p.predictIntra_apart _ _ (chroma_enclosed r c) _ _ _ _).trans
    (addChroma_apart _ fits residual)

theorem predictSplitChroma_apart (reference : Plane (8 * cols) (8 * rows) 16)
    (kind : Interpolation) (fullPixel : Bool) (reach : Reach) (m : Macroblock) :
    Agree (ChromaApart r c) p (p.predictSplitChroma reference kind fullPixel reach fits m) := by
  apply foldBlocks_apart (n := 2)
  intro p y x
  exact p.copyMotion_apart _ _ _ (Encloses.block (n := 2) (chroma_enclosed r c) y x) _

end Chroma

end Plane

namespace Picture

variable {rows cols : Nat} {r : Fin rows} {c : Fin cols} {p q s : Picture rows cols}

structure AgreeApart (r c : Nat) (p q : Picture rows cols) : Prop where
  luma : p.luma.Agree (Plane.LumaApart r c) q.luma
  cb : p.cb.Agree (Plane.ChromaApart r c) q.cb
  cr : p.cr.Agree (Plane.ChromaApart r c) q.cr

theorem AgreeApart.trans (first : AgreeApart r c p q) (second : AgreeApart r c q s) :
    AgreeApart r c p s :=
  ⟨first.luma.trans second.luma, first.cb.trans second.cb, first.cr.trans second.cr⟩

theorem predictInter_apart (p reference : Picture rows cols) (kind : Interpolation)
    (fullPixel : Bool) (fits : Fits rows cols r c) (m : Macroblock) :
    AgreeApart r c p (p.predictInter reference kind fullPixel fits m) := by
  unfold predictInter
  dsimp only
  split
  · exact ⟨p.luma.predictSplitLuma_apart fits.1 _ _ _ _,
      p.cb.predictSplitChroma_apart fits.2 _ _ _ _ _,
      p.cr.predictSplitChroma_apart fits.2 _ _ _ _ _⟩
  · exact ⟨p.luma.copyMotion_apart _ _ _ (Plane.luma_enclosed r c) fits.1,
      p.cb.copyMotion_apart _ _ _ (Plane.chroma_enclosed r c) fits.2,
      p.cr.copyMotion_apart _ _ _ (Plane.chroma_enclosed r c) fits.2⟩

theorem addResidual_apart (p : Picture rows cols) (fits : Fits rows cols r c)
    (residual : Residual) : AgreeApart r c p (p.addResidual fits residual) :=
  ⟨p.luma.addLuma_apart fits.1 (some residual.luma), p.cb.addChroma_apart fits.2 (some residual.cb),
    p.cr.addChroma_apart fits.2 (some residual.cr)⟩

theorem reconstructIntra_apart (p : Picture rows cols) (fits : Fits rows cols r c) (m : Macroblock)
    (residual : Option Residual) : AgreeApart r c p (p.reconstructIntra fits m residual) :=
  ⟨p.luma.reconstructIntraLuma_apart fits.1 m _, p.cb.reconstructIntraChroma_apart fits.2 m _,
    p.cr.reconstructIntraChroma_apart fits.2 m _⟩

theorem reconstructFrom_apart (p : Picture rows cols) (sources : Sources rows cols)
    (reference : Option (Picture rows cols)) (fits : Fits rows cols r c) (m : Macroblock)
    (residual : Option Residual) :
    AgreeApart r c p (p.reconstructFrom sources reference fits m residual) := by
  cases reference with
  | none => exact p.reconstructIntra_apart fits m residual
  | some reference =>
    have predicted := p.predictInter_apart reference sources.interpolation sources.fullPixel fits m
    cases residual with
    | none => exact predicted
    | some residual => exact predicted.trans (addResidual_apart _ fits residual)

end Picture

end Vp8
