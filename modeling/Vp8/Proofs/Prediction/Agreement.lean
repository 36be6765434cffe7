import Vp8.Prediction.Macroblock
import Vp8.Proofs.Image.Agreement

/-!
Reconstruction in raster order. Before a macroblock, two pictures agree on the macroblocks in front
of it and on the edges that intra prediction sees; nothing else is read, so that they agree on the
macroblock as well once it is there, whatever either of them held in its place.
-/
namespace Vp8

/-- Invariant of a walk through the blocks of a square, by the place of the next block. -/
theorem foldBlocks_related {α β : Type} {n : Nat} {f : α → Fin n → Fin n → α}
    {g : β → Fin n → Fin n → β} (I : Nat → Nat → α → β → Prop)
    (step : ∀ y x a b, I y.val x.val a b → I y.val (x.val + 1) (f a y x) (g b y x))
    (turn : ∀ y a b, I y n a b → I (y + 1) 0 a b) {a : α} {b : β} (start : I 0 0 a b) :
    I n 0 (foldBlocks n f a) (foldBlocks n g b) := by
  unfold foldBlocks
  apply foldl_related (fun y => I y 0) _ start
  intro y a b row
  apply turn
  apply foldl_related (I y.val) _ row
  intro x a b related
  exact step y x a b related

section Blocks

variable {α β : Type} {n : Nat} {f : α → Fin n → Fin n → α}

theorem foldBlocks_invariant (I : Nat → Nat → α → Prop)
    (step : ∀ y x a, I y.val x.val a → I y.val (x.val + 1) (f a y x))
    (turn : ∀ y a, I y n a → I (y + 1) 0 a) {a : α} (start : I 0 0 a) :
    I n 0 (foldBlocks n f a) := by
  have related := foldBlocks_related (g := fun (b : Unit) _ _ => b) (fun y x a _ => I y x a)
    (fun y x a _ => step y x a) (fun y a _ => turn y a) (b := ()) start
  exact related

theorem foldBlocks_commutes {g : β → Fin n → Fin n → β} (observe : α → β)
    (step : ∀ a y x, observe (f a y x) = g (observe a) y x) (a : α) :
    observe (foldBlocks n f a) = foldBlocks n g (observe a) := by
  unfold foldBlocks
  apply foldl_commutes observe
  intro a y
  apply foldl_commutes observe
  intro a x
  exact step a y x

end Blocks

namespace Plane

variable {width height border : Nat} {S T : Region} {p q : Plane width height border}

def Filled (left top : Int) (n y x : Nat) : Region := fun u v =>
  left ≤ u ∧ u < left + 4 * n ∧ top ≤ v ∧ (v < top + 4 * y ∨ v < top + 4 * y + 4 ∧ u < left + 4 * x)

/-- What is known before the macroblock at a position: the ones in front of it, the column to the
    left of the picture, and `tail` pixels to the right of the last row above. -/
def Known (width height : Nat) (left top side tail : Int) : Region := fun x y =>
  (-1 ≤ x ∧ x < width ∧ -1 ≤ y ∧ y < height ∧ (y < top ∨ y < top + side ∧ x < left)) ∨
    (x = -1 ∧ -1 ≤ y ∧ y < height) ∨ (y = top - 1 ∧ width ≤ x ∧ x < width + tail)

theorem Agree.gather (agree : Agree S p q) {x y : Int} {n : Nat}
    (inside : Encloses width height border (x - 1) (y - 1) (n + 1) (n + 1))
    (above : ∀ u, x - 1 ≤ u → u < x + n → S u (y - 1))
    (left : ∀ v, y ≤ v → v < y + n → S (x - 1) v)
    (row : Covers width height border (x - 1) (y - 1) (n + 1) 1)
    (column : Covers width height border (x - 1) (y - 1) 1 (n + 1)) :
    BlockEdges.gather p x y n row column = BlockEdges.gather q x y n row column := by
  unfold Encloses at inside
  unfold BlockEdges.gather
  congr 1
  · congr 1
    funext i
    have := i.isLt
    exact agree.pixel (above _ (by omega) (by omega)) (by unfold Encloses; omega) _
  · congr 1
    funext i
    have := i.isLt
    exact agree.pixel (left _ (by omega) (by omega)) (by unfold Encloses; omega) _
  · exact agree.pixel (above _ (by omega) (by omega)) (by unfold Encloses; omega) _

theorem Agree.predictIntra (agree : Agree S p q) {x y : Int} {n : Nat}
    (inside : Encloses width height border (x - 1) (y - 1) (n + 1) (n + 1))
    (above : ∀ u, x - 1 ≤ u → u < x + n → S u (y - 1))
    (left : ∀ v, y ≤ v → v < y + n → S (x - 1) v)
    (row : Covers width height border (x - 1) (y - 1) (n + 1) 1)
    (column : Covers width height border (x - 1) (y - 1) 1 (n + 1))
    (covers : Covers width height border x y n n) (mode : Mode) (haveAbove haveLeft : Bool)
    (known : ∀ u v, T u v → S u v ∨ InBlock x y n n u v) :
    Agree T (p.predictIntra x y n row column covers mode haveAbove haveLeft)
      (q.predictIntra x y n row column covers mode haveAbove haveLeft) := by
  unfold Plane.predictIntra
  rw [agree.gather inside above left]
  apply agree.store _ _ covers known
  unfold Encloses at inside ⊢
  omega

theorem Agree.addBlocks (agree : Agree S p q) {x y : Int} {n : Nat} (residual : BlockGrid n)
    (inside : Encloses width height border x y (4 * n) (4 * n))
    (covers : Covers width height border x y (4 * n) (4 * n)) :
    Agree S (p.addBlocks x y residual covers) (q.addBlocks x y residual covers) := by
  unfold Plane.addBlocks
  apply foldBlocks_related (fun _ _ => Agree S) _ (fun _ _ _ => id) agree
  intro j i p q agree
  apply agree.update
  have := i.isLt
  have := j.isLt
  unfold Encloses at inside ⊢
  omega

theorem Agree.foldStore (agree : Agree S p q) {x y : Int} {n : Nat}
    (inside : Encloses width height border x y (4 * n) (4 * n))
    (block : Fin n → Fin n → Raster 4 4)
    (covers : ∀ j i : Fin n, Covers width height border (x + (4 * i.val : Nat))
      (y + (4 * j.val : Nat)) 4 4) :
    Agree (fun u v => S u v ∨ Filled x y n n 0 u v)
      (foldBlocks n (fun p j i => p.store (x + (4 * i.val : Nat)) (y + (4 * j.val : Nat))
        (block j i) (covers j i)) p)
      (foldBlocks n (fun q j i => q.store (x + (4 * i.val : Nat)) (y + (4 * j.val : Nat))
        (block j i) (covers j i)) q) := by
  apply foldBlocks_related (fun j i => Agree fun u v => S u v ∨ Filled x y n j i u v)
  · intro j i p q agree
    have := i.isLt
    have := j.isLt
    apply agree.store
    · unfold Encloses at inside ⊢
      omega
    · intro u v member
      rcases member with old | new
      · exact .inl (.inl old)
      · by_cases earlier : Filled x y n j i u v
        · exact .inl (.inr earlier)
        · right
          unfold Filled at new earlier
          unfold InBlock
          omega
  · intro j p q agree
    apply agree.mono
    intro u v member
    rcases member with old | new
    · exact .inl old
    · right
      unfold Filled at new ⊢
      omega
  · apply agree.mono
    intro u v member
    rcases member with old | new
    · exact old
    · unfold Filled at new
      omega

theorem Agree.gatherSubblock (agree : Agree S p q) {x y line : Int}
    (inside : Encloses width height border (x - 1) (y - 1) 5 5)
    (right : Encloses width height border (x + 4) line 4 1)
    (above : ∀ u, x - 1 ≤ u → u < x + 4 → S u (y - 1))
    (left : ∀ v, y ≤ v → v < y + 4 → S (x - 1) v)
    (further : ∀ u, x + 4 ≤ u → u < x + 8 → S u line)
    (readable : SubblockEdges.Readable width height border x y line) :
    SubblockEdges.gather p x y line readable = SubblockEdges.gather q x y line readable := by
  unfold Encloses at inside right
  unfold SubblockEdges.gather
  congr 1
  · congr 1
    funext i
    have := i.isLt
    split
    · exact agree.pixel (above _ (by omega) (by omega)) (by unfold Encloses; omega) _
    · exact agree.pixel (further _ (by omega) (by omega)) (by unfold Encloses; omega) _
  · congr 1
    funext i
    have := i.isLt
    exact agree.pixel (left _ (by omega) (by omega)) (by unfold Encloses; omega) _
  · exact agree.pixel (above _ (by omega) (by omega)) (by unfold Encloses; omega) _

end Plane

namespace Plane

variable {rows cols : Nat} {S : Region} {p q : Plane (16 * cols) (16 * rows) 32}

def LumaKnown (rows cols r c : Nat) : Region :=
  Known (16 * cols) (16 * rows) (16 * c : Nat) (16 * r : Nat) 16 4

def SubblockKnown (rows cols r c y x : Nat) : Region := fun u v =>
  LumaKnown rows cols r c u v ∨ Filled (16 * c : Nat) (16 * r : Nat) 4 y x u v

theorem Agree.reconstructSubblock {r : Fin rows} {c : Fin cols} {y x : Fin 4}
    (agree : Agree (SubblockKnown rows cols r c y x) p q) (fits : LumaFits rows cols r c)
    (mode : SubblockMode) (residual : Option Block) :
    Agree (SubblockKnown rows cols r c y (x + 1)) (p.reconstructSubblock fits mode residual y x)
      (q.reconstructSubblock fits mode residual y x) := by
  have := r.isLt
  have := c.isLt
  have := y.isLt
  have := x.isLt
  have edges : SubblockEdges.gather p _ _ _ (LumaFits.readable fits y x) =
      SubblockEdges.gather q _ _ _ (LumaFits.readable fits y x) := by
    apply agree.gatherSubblock
    · unfold Encloses
      omega
    · unfold Encloses aboveRightRow
      split <;> omega
    · intro u low high
      unfold SubblockKnown LumaKnown Known Filled
      omega
    · intro v low high
      unfold SubblockKnown LumaKnown Known Filled
      omega
    · intro u low high
      unfold SubblockKnown LumaKnown Known Filled aboveRightRow
      split <;> omega
  have place : Encloses (16 * cols) (16 * rows) 32 ((16 * c.val : Nat) + (4 * x.val : Nat))
      ((16 * r.val : Nat) + (4 * y.val : Nat)) 4 4 := by
    unfold Encloses
    omega
  unfold Plane.reconstructSubblock
  dsimp only
  rw [edges]
  have known (u v : Int) (member : SubblockKnown rows cols r c y (x + 1) u v) :
      SubblockKnown rows cols r c y x u v ∨
        InBlock ((16 * c.val : Nat) + (4 * x.val : Nat)) ((16 * r.val : Nat) + (4 * y.val : Nat))
          4 4 u v := by
    rcases member with old | new
    · exact .inl (.inl old)
    · unfold SubblockKnown Filled at *
      unfold InBlock
      omega
  split
  · exact agree.store _ place _ known
  · exact (agree.store _ place _ known).update place _ _

theorem Agree.reconstructSubblocks {r : Fin rows} {c : Fin cols}
    (agree : Agree (LumaKnown rows cols r c) p q) (fits : LumaFits rows cols r c)
    (modes : Vector SubblockMode 16) (residual : Option (BlockGrid 4)) :
    Agree (SubblockKnown rows cols r c 4 0) (p.reconstructSubblocks fits modes residual)
      (q.reconstructSubblocks fits modes residual) := by
  unfold Plane.reconstructSubblocks
  apply foldBlocks_related (fun y x => Agree (SubblockKnown rows cols r c y x))
  · intro y x p q agree
    exact agree.reconstructSubblock fits _ _
  · intro y p q agree
    apply agree.mono
    intro u v member
    rcases member with old | new
    · exact .inl old
    · right
      unfold Filled at new ⊢
      omega
  · apply agree.mono
    intro u v member
    rcases member with old | new
    · exact old
    · unfold Filled at new
      omega

theorem Agree.luma_next {r : Fin rows} {c : Fin cols}
    (agree : Agree (SubblockKnown rows cols r c 4 0) p q) :
    Agree (LumaKnown rows cols r (c + 1)) p q := by
  apply agree.mono
  intro u v member
  unfold SubblockKnown LumaKnown Known Filled at *
  omega

theorem Agree.addLuma (agree : Agree S p q) {r : Fin rows} {c : Fin cols}
    (fits : LumaFits rows cols r c) (residual : Option (BlockGrid 4)) :
    Agree S (residual.elim p (p.addLuma fits)) (residual.elim q (q.addLuma fits)) := by
  cases residual with
  | none => exact agree
  | some residual =>
    have := r.isLt
    have := c.isLt
    have place : Encloses (16 * cols) (16 * rows) 32 (16 * c.val : Nat) (16 * r.val : Nat)
        (4 * 4) (4 * 4) := by
      unfold Encloses
      omega
    exact Agree.addBlocks (n := 4) agree residual place fits

theorem Agree.reconstructIntraLuma {r : Fin rows} {c : Fin cols}
    (agree : Agree (LumaKnown rows cols r c) p q) (fits : LumaFits rows cols r c) (m : Macroblock)
    (residual : Option (BlockGrid 4)) :
    Agree (LumaKnown rows cols r (c + 1)) (p.reconstructIntraLuma fits m residual)
      (q.reconstructIntraLuma fits m residual) := by
  have := r.isLt
  have := c.isLt
  unfold Plane.reconstructIntraLuma
  split
  · exact (agree.reconstructSubblocks fits m.subblockModes residual).luma_next
  · apply Agree.addLuma
    apply agree.predictIntra
    · unfold Encloses
      omega
    · intro u low high
      unfold LumaKnown Known
      omega
    · intro v low high
      unfold LumaKnown Known
      omega
    · intro u v member
      unfold LumaKnown Known at *
      unfold InBlock
      omega

theorem Agree.predictSplitLuma {r : Fin rows} {c : Fin cols}
    (agree : Agree (LumaKnown rows cols r c) p q) (reference : Plane (16 * cols) (16 * rows) 32)
    (kind : Interpolation) (reach : Reach) (fits : LumaFits rows cols r c) (m : Macroblock) :
    Agree (LumaKnown rows cols r (c + 1)) (p.predictSplitLuma reference kind reach fits m)
      (q.predictSplitLuma reference kind reach fits m) := by
  have := r.isLt
  have := c.isLt
  have place : Encloses (16 * cols) (16 * rows) 32 (16 * c.val : Nat) (16 * r.val : Nat)
      (4 * 4) (4 * 4) := by
    unfold Encloses
    omega
  apply Agree.luma_next
  exact Agree.foldStore (n := 4) agree place _ fun j i => Covers.part (n := 4) fits i j

theorem Agree.predictLuma {r : Fin rows} {c : Fin cols}
    (agree : Agree (LumaKnown rows cols r c) p q) (reference : Plane (16 * cols) (16 * rows) 32)
    (kind : Interpolation) (v : MotionVector) (fits : LumaFits rows cols r c) :
    Agree (LumaKnown rows cols r (c + 1))
      (p.copyMotion reference kind (16 * c.val : Nat) (16 * r.val : Nat) 16 16 v fits)
      (q.copyMotion reference kind (16 * c.val : Nat) (16 * r.val : Nat) 16 16 v fits) := by
  have := r.isLt
  have := c.isLt
  apply agree.store
  · unfold Encloses
    omega
  · intro u v member
    unfold LumaKnown Known at *
    unfold InBlock
    omega

end Plane

namespace Plane

variable {rows cols : Nat} {S : Region} {p q : Plane (8 * cols) (8 * rows) 16}

def ChromaKnown (rows cols r c : Nat) : Region :=
  Known (8 * cols) (8 * rows) (8 * c : Nat) (8 * r : Nat) 8 0

theorem Agree.addChroma (agree : Agree S p q) {r : Fin rows} {c : Fin cols}
    (fits : ChromaFits rows cols r c) (residual : Option (BlockGrid 2)) :
    Agree S (residual.elim p (p.addChroma fits)) (residual.elim q (q.addChroma fits)) := by
  cases residual with
  | none => exact agree
  | some residual =>
    have := r.isLt
    have := c.isLt
    have place : Encloses (8 * cols) (8 * rows) 16 (8 * c.val : Nat) (8 * r.val : Nat)
        (4 * 2) (4 * 2) := by
      unfold Encloses
      omega
    exact Agree.addBlocks (n := 2) agree residual place fits

theorem Agree.reconstructIntraChroma {r : Fin rows} {c : Fin cols}
    (agree : Agree (ChromaKnown rows cols r c) p q) (fits : ChromaFits rows cols r c)
    (m : Macroblock) (residual : Option (BlockGrid 2)) :
    Agree (ChromaKnown rows cols r (c + 1)) (p.reconstructIntraChroma fits m residual)
      (q.reconstructIntraChroma fits m residual) := by
  have := r.isLt
  have := c.isLt
  unfold Plane.reconstructIntraChroma
  apply Agree.addChroma
  apply agree.predictIntra
  · unfold Encloses
    omega
  · intro u low high
    unfold ChromaKnown Known
    omega
  · intro v low high
    unfold ChromaKnown Known
    omega
  · intro u v member
    unfold ChromaKnown Known at *
    unfold InBlock
    omega

theorem Agree.predictSplitChroma {r : Fin rows} {c : Fin cols}
    (agree : Agree (ChromaKnown rows cols r c) p q) (reference : Plane (8 * cols) (8 * rows) 16)
    (kind : Interpolation) (fullPixel : Bool) (reach : Reach) (fits : ChromaFits rows cols r c)
    (m : Macroblock) :
    Agree (ChromaKnown rows cols r (c + 1))
      (p.predictSplitChroma reference kind fullPixel reach fits m)
      (q.predictSplitChroma reference kind fullPixel reach fits m) := by
  have := r.isLt
  have := c.isLt
  have place : Encloses (8 * cols) (8 * rows) 16 (8 * c.val : Nat) (8 * r.val : Nat)
      (4 * 2) (4 * 2) := by
    unfold Encloses
    omega
  have quarters : Agree
      (fun u v =>
        ChromaKnown rows cols r c u v ∨ Filled (8 * c.val : Nat) (8 * r.val : Nat) 2 2 0 u v)
      (p.predictSplitChroma reference kind fullPixel reach fits m)
      (q.predictSplitChroma reference kind fullPixel reach fits m) :=
    Agree.foldStore (n := 2) agree place _ fun j i => Covers.part (n := 2) fits i j
  apply quarters.mono
  intro u v member
  unfold ChromaKnown Known Filled at *
  omega

theorem Agree.predictChroma {r : Fin rows} {c : Fin cols}
    (agree : Agree (ChromaKnown rows cols r c) p q) (reference : Plane (8 * cols) (8 * rows) 16)
    (kind : Interpolation) (v : MotionVector) (fits : ChromaFits rows cols r c) :
    Agree (ChromaKnown rows cols r (c + 1))
      (p.copyMotion reference kind (8 * c.val : Nat) (8 * r.val : Nat) 8 8 v fits)
      (q.copyMotion reference kind (8 * c.val : Nat) (8 * r.val : Nat) 8 8 v fits) := by
  have := r.isLt
  have := c.isLt
  apply agree.store
  · unfold Encloses
    omega
  · intro u v member
    unfold ChromaKnown Known at *
    unfold InBlock
    omega

end Plane

namespace Picture

variable {rows cols : Nat} {p q : Picture rows cols}

def AgreeBefore (r c : Nat) (p q : Picture rows cols) : Prop :=
  Agree (Plane.LumaKnown rows cols r c) (Plane.ChromaKnown rows cols r c) p q

theorem AgreeBefore.reconstructIntra {r : Fin rows} {c : Fin cols} (agree : AgreeBefore r c p q)
    (fits : Fits rows cols r c) (m : Macroblock) (residual : Option Residual) :
    AgreeBefore r (c + 1) (p.reconstructIntra fits m residual)
      (q.reconstructIntra fits m residual) := by
  constructor
  · exact agree.luma.reconstructIntraLuma fits.1 m _
  · exact agree.cb.reconstructIntraChroma fits.2 m _
  · exact agree.cr.reconstructIntraChroma fits.2 m _
  · exact agree.damaged

theorem AgreeBefore.predictSplit {r : Fin rows} {c : Fin cols} (agree : AgreeBefore r c p q)
    (reference : Picture rows cols) (kind : Interpolation) (fullPixel : Bool) (reach : Reach)
    (fits : Fits rows cols r c) (m : Macroblock) :
    AgreeBefore r (c + 1) (p.predictSplit reference kind fullPixel reach fits m)
      (q.predictSplit reference kind fullPixel reach fits m) := by
  constructor
  · exact agree.luma.predictSplitLuma reference.luma kind reach fits.1 m
  · exact agree.cb.predictSplitChroma reference.cb kind fullPixel reach fits.2 m
  · exact agree.cr.predictSplitChroma reference.cr kind fullPixel reach fits.2 m
  · simp only [Picture.predictSplit, agree.damaged]

theorem AgreeBefore.predictWhole {r : Fin rows} {c : Fin cols} (agree : AgreeBefore r c p q)
    (reference : Picture rows cols) (kind : Interpolation) (fullPixel : Bool) (v : MotionVector)
    (fits : Fits rows cols r c) :
    AgreeBefore r (c + 1) (p.predictWhole reference kind fullPixel v fits)
      (q.predictWhole reference kind fullPixel v fits) := by
  constructor
  · exact agree.luma.predictLuma reference.luma kind v fits.1
  · exact agree.cb.predictChroma reference.cb kind (v.chroma fullPixel) fits.2
  · exact agree.cr.predictChroma reference.cr kind (v.chroma fullPixel) fits.2
  · simp only [Picture.predictWhole, agree.damaged]

theorem AgreeBefore.addResidual (agree : AgreeBefore r c p q) {y : Fin rows} {x : Fin cols}
    (fits : Fits rows cols y x) (residual : Residual) :
    AgreeBefore r c (p.addResidual fits residual) (q.addResidual fits residual) := by
  constructor
  · exact agree.luma.addLuma fits.1 (some residual.luma)
  · exact agree.cb.addChroma fits.2 (some residual.cb)
  · exact agree.cr.addChroma fits.2 (some residual.cr)
  · simp only [Picture.addResidual, agree.damaged]

theorem AgreeBefore.predictInter {r : Fin rows} {c : Fin cols} (agree : AgreeBefore r c p q)
    (reference : Picture rows cols) (kind : Interpolation) (fullPixel : Bool)
    (fits : Fits rows cols r c) (m : Macroblock) :
    AgreeBefore r (c + 1) (p.predictInter reference kind fullPixel fits m)
      (q.predictInter reference kind fullPixel fits m) := by
  unfold Picture.predictInter
  dsimp only
  split
  · exact agree.predictSplit reference kind fullPixel _ fits m
  · exact agree.predictWhole reference kind fullPixel _ fits

theorem AgreeBefore.reconstructFrom {r : Fin rows} {c : Fin cols} (agree : AgreeBefore r c p q)
    (s : Sources rows cols) (reference : Option (Picture rows cols)) (fits : Fits rows cols r c)
    (m : Macroblock) (residual : Option Residual) :
    AgreeBefore r (c + 1) (p.reconstructFrom s reference fits m residual)
      (q.reconstructFrom s reference fits m residual) := by
  cases reference with
  | none => exact agree.reconstructIntra fits m residual
  | some reference =>
    have predicted := agree.predictInter reference s.interpolation s.fullPixel fits m
    cases residual with
    | none => exact predicted
    | some residual => exact predicted.addResidual fits residual

end Picture

end Vp8
