import Vp8.Frame.Reconstruction
import Vp8.Proofs.Frame.Lockstep
import Vp8.Proofs.Image.Checked

/-!
Prediction and residual with every access checked: what a macroblock reads from the picture around
it or from a reference, and what it writes.
-/
namespace Vp8

section Loops

variable {α : Type} {n : Nat}

def foldBlocks? (n : Nat) (f : α → Fin n → Fin n → Option α) (a : α) : Option α :=
  Fin.foldlM n (fun a y => Fin.foldlM n (fun a x => f a y x) a) a

theorem foldBlocks?_eq {f? : α → Fin n → Fin n → Option α} {f : α → Fin n → Fin n → α}
    (step : ∀ a y x, f? a y x = some (f a y x)) (a : α) :
    foldBlocks? n f? a = some (foldBlocks n f a) := by
  apply foldlM_some
  intro a y
  exact foldlM_some (fun a x => step a y x) a

end Loops

namespace BlockEdges

variable {width height border : Nat}

def gather? (p : Plane width height border) (x y : Int) (n : Nat) : Option (BlockEdges n) := do
  let above ← p.row? x (y - 1) n
  let left ← Vector.ofFnM fun i : Fin n => p.pixel? (x - 1) (y + i.val)
  let corner ← p.pixel? (x - 1) (y - 1)
  return { above, left, corner }

theorem gather?_eq {p : Plane width height border} {x y : Int} {n : Nat}
    (row : Plane.Covers width height border (x - 1) (y - 1) (n + 1) 1)
    (column : Plane.Covers width height border (x - 1) (y - 1) 1 (n + 1)) :
    gather? p x y n = some (gather p x y n row column) := by
  have above : Plane.Covers width height border x (y - 1) n 1 :=
    row.sub 1 0 (by omega) (by omega) (by omega) (by omega)
  unfold gather?
  rw [Plane.row?_eq above, ofFnM_some fun i : Fin n => Plane.pixel?_eq
    (column.holds (u := x - 1) (v := y + i.val) (by omega) (by omega) (by omega) (by omega)),
    Plane.pixel?_eq (row.holds (by omega) (by omega) (by omega) (by omega))]
  rfl

end BlockEdges

namespace SubblockEdges

variable {width height border : Nat}

def gather? (p : Plane width height border) (x y aboveRightRow : Int) : Option SubblockEdges := do
  let above ← Vector.ofFnM fun i : Fin 8 =>
    if i.val < 4 then p.pixel? (x + i.val) (y - 1) else p.pixel? (x + i.val) aboveRightRow
  let left ← Vector.ofFnM fun i : Fin 4 => p.pixel? (x - 1) (y + i.val)
  let corner ← p.pixel? (x - 1) (y - 1)
  return { above, left, corner }

theorem gather?_eq {p : Plane width height border} {x y aboveRightRow : Int}
    (readable : Readable width height border x y aboveRightRow) :
    gather? p x y aboveRightRow = some (gather p x y aboveRightRow readable) := by
  have above (i : Fin 8) :
      (if i.val < 4 then p.pixel? (x + i.val) (y - 1) else p.pixel? (x + i.val) aboveRightRow) =
        some (if _h : i.val < 4 then p.pixel (x + i) (y - 1)
            (readable.1.holds (by omega) (by omega) (by omega) (by omega))
          else p.pixel (x + i) aboveRightRow
            (readable.2.2.holds (by omega) (by omega) (by omega) (by omega))) := by
    split
    · exact Plane.pixel?_eq _
    · exact Plane.pixel?_eq _
  have left (i : Fin 4) := Plane.pixel?_eq (p := p) (readable.2.1.holds (u := x - 1)
    (v := y + i.val) (by omega) (by omega) (by omega) (by omega))
  unfold gather?
  rw [ofFnM_some above, ofFnM_some left,
    Plane.pixel?_eq (readable.1.holds (by omega) (by omega) (by omega) (by omega))]
  rfl

end SubblockEdges

namespace Plane

section Blocks

variable {width height border n : Nat}

def addBlock? (p : Plane width height border) (x y : Int) (b : Block) :
    Option (Plane width height border) :=
  p.update? x y 4 4 b.addTo

def addBlocks? (p : Plane width height border) (x y : Int) (residual : BlockGrid n) :
    Option (Plane width height border) :=
  foldBlocks? n (fun p j i => p.addBlock? (x + (4 * i.val : Nat)) (y + (4 * j.val : Nat))
    ((residual.get j).get i)) p

def predictIntra? (p : Plane width height border) (x y : Int) (n : Nat) (mode : Mode)
    (haveAbove haveLeft : Bool) : Option (Plane width height border) := do
  let edges ← BlockEdges.gather? p x y n
  p.store? x y (edges.predict mode haveAbove haveLeft)

def clampCoordinate? (size : Nat) (i : Int) : Option Int :=
  demand (0 < size) fun _ => clampCoordinate size i

/-- A window between the left and the right edge is copied row by row, any other one pixel by
    pixel. -/
def window? (p : Plane width height border) (x y : Int) (w h : Nat) : Option (Raster w h) :=
  Vector.ofFnM fun r => do
    let y ← clampCoordinate? height (y + r.val)
    if 0 ≤ x ∧ x + w ≤ width then p.row? x y w
    else Vector.ofFnM fun c => do p.pixel? (← clampCoordinate? width (x + c.val)) y

open Interpolation MotionVector in
def predictMotion? (reference : Plane width height border) (kind : Interpolation) (x y : Int)
    (w h : Nat) (v : MotionVector) : Option (Raster w h) :=
  let x := x + whole v.col
  let y := y + whole v.row
  let fx := phase v.col
  let fy := phase v.row
  if 16 < w ∨ 16 < h then none
  else if fx = 0 ∧ fy = 0 then reference.window? x y w h
  else match kind with
    | .sixTap => do
      let source ← reference.window? (x - 2) (y - 2) (w + 5) (h + 5)
      return sixTapColumns (sixTapFilters.get fy) (sixTapRows (sixTapFilters.get fx) source)
    | .bilinear => do
      let source ← reference.window? x y (w + 1) (h + 1)
      return bilinearColumns (bilinearFilters.get fy) (bilinearRows (bilinearFilters.get fx) source)

def copyMotion? (p : Plane width height border) {wide high margin : Nat}
    (reference : Plane wide high margin) (kind : Interpolation) (x y : Int)
    (w h : Nat) (v : MotionVector) : Option (Plane width height border) := do
  let block ← reference.predictMotion? kind x y w h v
  p.store? x y block

variable {p reference : Plane width height border} {x y : Int}

theorem addBlock?_eq (b : Block) (inside : Covers width height border x y 4 4) :
    p.addBlock? x y b = some (p.addBlock x y b inside) := update?_eq inside _

theorem addBlocks?_eq (residual : BlockGrid n)
    (inside : Covers width height border x y (4 * n) (4 * n)) :
    p.addBlocks? x y residual = some (p.addBlocks x y residual inside) := by
  apply foldBlocks?_eq
  intro p j i
  exact addBlock?_eq _ _

theorem predictIntra?_eq (row : Covers width height border (x - 1) (y - 1) (n + 1) 1)
    (column : Covers width height border (x - 1) (y - 1) 1 (n + 1))
    (inside : Covers width height border x y n n) (mode : Mode) (haveAbove haveLeft : Bool) :
    p.predictIntra? x y n mode haveAbove haveLeft =
      some (p.predictIntra x y n row column inside mode haveAbove haveLeft) := by
  unfold predictIntra?
  rw [BlockEdges.gather?_eq row column]
  exact store?_eq _ inside

theorem clampCoordinate?_eq {size : Nat} (positive : 0 < size) (i : Int) :
    clampCoordinate? size i = some (clampCoordinate size i) := demand_eq positive _

theorem clampCoordinate_of_inside {size : Nat} {i : Int} (low : 0 ≤ i) (high : i < size) :
    clampCoordinate size i = i := by
  unfold clampCoordinate saturate
  omega

theorem window?_eq (visible : Visible width height) (w h : Nat) :
    p.window? x y w h = some (p.window x y w h) := by
  have pixel (u v : Int) :
      p.pixel? (clampCoordinate width u) (clampCoordinate height v) =
        some (p.extended visible u v) := pixel?_eq _
  unfold window? window
  rw [dif_pos visible]
  apply ofFnM_some
  intro r
  rw [clampCoordinate?_eq visible.2]
  dsimp only [Option.bind_eq_bind, Option.bind_some]
  split
  · rename_i inside
    -- between the edges no column is clamped
    apply ofFnM_some
    intro c
    rw [← pixel, clampCoordinate_of_inside (i := x + c.val) (by omega) (by omega)]
  · apply ofFnM_some
    intro c
    rw [clampCoordinate?_eq visible.1]
    exact pixel _ _

theorem predictMotion?_eq (visible : Visible width height) (kind : Interpolation) {w h : Nat}
    (small : w ≤ 16 ∧ h ≤ 16) (v : MotionVector) :
    reference.predictMotion? kind x y w h v = some (reference.predictMotion kind x y w h v) := by
  unfold predictMotion? predictMotion
  dsimp only
  rw [if_neg (by omega)]
  split
  · exact window?_eq visible w h
  · cases kind with
    | sixTap =>
      dsimp only
      rw [window?_eq visible]
      rfl
    | bilinear =>
      dsimp only
      rw [window?_eq visible]
      rfl

theorem copyMotion?_eq {wide high margin : Nat} {reference : Plane wide high margin}
    (visible : Visible wide high) (kind : Interpolation) {w h : Nat} (small : w ≤ 16 ∧ h ≤ 16)
    (v : MotionVector) (inside : Covers width height border x y w h) :
    p.copyMotion? reference kind x y w h v =
      some (p.copyMotion reference kind x y w h v inside) := by
  unfold copyMotion?
  rw [predictMotion?_eq visible kind small]
  exact store?_eq _ inside

end Blocks

variable {rows cols : Nat}

def reconstructSubblock? (p : Plane (16 * cols) (16 * rows) 32) (r c : Nat) (mode : SubblockMode)
    (residual : Option Block) (y x : Fin 4) : Option (Plane (16 * cols) (16 * rows) 32) := do
  let left : Int := (16 * c : Nat) + (4 * x.val : Nat)
  let top : Int := (16 * r : Nat) + (4 * y.val : Nat)
  let edges ← SubblockEdges.gather? p left top (aboveRightRow r y x)
  let p ← p.store? left top (edges.predict mode)
  match residual with
  | none => return p
  | some b => p.addBlock? left top b

def reconstructSubblocks? (p : Plane (16 * cols) (16 * rows) 32) (r c : Nat)
    (modes : Vector SubblockMode 16) (residual : Option (BlockGrid 4)) :
    Option (Plane (16 * cols) (16 * rows) 32) :=
  foldBlocks? 4 (fun p y x => p.reconstructSubblock? r c (modes.get (Block.position y x))
    (residual.map fun blocks => (blocks.get y).get x) y x) p

def addLuma? (p : Plane (16 * cols) (16 * rows) 32) (r c : Nat) (residual : BlockGrid 4) :
    Option (Plane (16 * cols) (16 * rows) 32) :=
  p.addBlocks? (16 * c : Nat) (16 * r : Nat) residual

def addChroma? (p : Plane (8 * cols) (8 * rows) 16) (r c : Nat) (residual : BlockGrid 2) :
    Option (Plane (8 * cols) (8 * rows) 16) :=
  p.addBlocks? (8 * c : Nat) (8 * r : Nat) residual

def reconstructIntraLuma? (p : Plane (16 * cols) (16 * rows) 32) (r c : Nat) (m : Macroblock)
    (residual : Option (BlockGrid 4)) : Option (Plane (16 * cols) (16 * rows) 32) :=
  if m.mode = .subblocks then p.reconstructSubblocks? r c m.subblockModes residual
  else do
    let p ← p.predictIntra? (16 * c : Nat) (16 * r : Nat) 16 m.mode (0 < r) (0 < c)
    residual.elim (some p) (p.addLuma? r c)

def reconstructIntraChroma? (p : Plane (8 * cols) (8 * rows) 16) (r c : Nat) (m : Macroblock)
    (residual : Option (BlockGrid 2)) : Option (Plane (8 * cols) (8 * rows) 16) := do
  let p ← p.predictIntra? (8 * c : Nat) (8 * r : Nat) 8 m.chromaMode (0 < r) (0 < c)
  residual.elim (some p) (p.addChroma? r c)

def predictSplitLuma? (p reference : Plane (16 * cols) (16 * rows) 32) (kind : Interpolation)
    (reach : Reach) (r c : Nat) (m : Macroblock) : Option (Plane (16 * cols) (16 * rows) 32) :=
  foldBlocks? 4 (fun p y x => p.copyMotion? reference kind ((16 * c : Nat) + (4 * x.val : Nat))
    ((16 * r : Nat) + (4 * y.val : Nat)) 4 4
    (m.limit reach.clampToBorder (m.vectors.get (Block.position y x)))) p

def predictSplitChroma? (p reference : Plane (8 * cols) (8 * rows) 16) (kind : Interpolation)
    (fullPixel : Bool) (reach : Reach) (r c : Nat) (m : Macroblock) :
    Option (Plane (8 * cols) (8 * rows) 16) :=
  foldBlocks? 2 (fun p y x => p.copyMotion? reference kind ((8 * c : Nat) + (4 * x.val : Nat))
    ((8 * r : Nat) + (4 * y.val : Nat)) 4 4
    (m.limit reach.clampChromaToBorder (m.quarterVector fullPixel y x))) p

section Luma

variable {p reference : Plane (16 * cols) (16 * rows) 32} {r c : Nat}

theorem reconstructSubblock?_eq (fits : LumaFits rows cols r c) (mode : SubblockMode)
    (residual : Option Block) (y x : Fin 4) :
    p.reconstructSubblock? r c mode residual y x =
      some (p.reconstructSubblock fits mode residual y x) := by
  have block := Covers.part (n := 4) fits x y
  unfold reconstructSubblock?
  dsimp only
  rw [SubblockEdges.gather?_eq (LumaFits.readable fits y x)]
  dsimp only [Option.bind_eq_bind, Option.bind_some]
  rw [store?_eq _ block]
  cases residual with
  | none => rfl
  | some b => exact addBlock?_eq b block

theorem reconstructSubblocks?_eq (fits : LumaFits rows cols r c) (modes : Vector SubblockMode 16)
    (residual : Option (BlockGrid 4)) :
    p.reconstructSubblocks? r c modes residual =
      some (p.reconstructSubblocks fits modes residual) := by
  apply foldBlocks?_eq
  intro p y x
  exact reconstructSubblock?_eq fits _ _ y x

theorem reconstructIntraLuma?_eq (fits : LumaFits rows cols r c) (m : Macroblock)
    (residual : Option (BlockGrid 4)) :
    p.reconstructIntraLuma? r c m residual = some (p.reconstructIntraLuma fits m residual) := by
  unfold reconstructIntraLuma? reconstructIntraLuma
  split
  · exact reconstructSubblocks?_eq fits _ _
  · rw [predictIntra?_eq (Covers.rowAbove fits (by omega) (by omega) (by decide))
      (Covers.columnLeft fits (by omega) (by omega) (by decide)) fits]
    cases residual with
    | none => rfl
    | some residual => exact addBlocks?_eq residual fits

theorem predictSplitLuma?_eq (visible : Visible (16 * cols) (16 * rows)) (kind : Interpolation)
    (reach : Reach) (fits : LumaFits rows cols r c) (m : Macroblock) :
    p.predictSplitLuma? reference kind reach r c m =
      some (p.predictSplitLuma reference kind reach fits m) := by
  apply foldBlocks?_eq
  intro p y x
  exact copyMotion?_eq visible kind (by decide) _ _

end Luma

section Chroma

variable {p reference : Plane (8 * cols) (8 * rows) 16} {r c : Nat}

theorem reconstructIntraChroma?_eq (fits : ChromaFits rows cols r c) (m : Macroblock)
    (residual : Option (BlockGrid 2)) :
    p.reconstructIntraChroma? r c m residual =
      some (p.reconstructIntraChroma fits m residual) := by
  unfold reconstructIntraChroma? reconstructIntraChroma
  rw [predictIntra?_eq (Covers.rowAbove fits (by omega) (by omega) (by decide))
    (Covers.columnLeft fits (by omega) (by omega) (by decide)) fits]
  cases residual with
  | none => rfl
  | some residual => exact addBlocks?_eq residual fits

theorem predictSplitChroma?_eq (visible : Visible (8 * cols) (8 * rows)) (kind : Interpolation)
    (fullPixel : Bool) (reach : Reach) (fits : ChromaFits rows cols r c) (m : Macroblock) :
    p.predictSplitChroma? reference kind fullPixel reach r c m =
      some (p.predictSplitChroma reference kind fullPixel reach fits m) := by
  apply foldBlocks?_eq
  intro p y x
  exact copyMotion?_eq visible kind (by decide) _ _

end Chroma

end Plane

def Sources.find? {rows cols : Nat} (s : Sources rows cols) (reference : Reference) :
    Option (Option (Picture rows cols)) :=
  if reference = .current then some none else (s.picture? reference).map some

theorem Sources.find?_eq {rows cols : Nat} {s : Sources rows cols} {a : Reference}
    {found : Option (Picture rows cols)} (done : s.find a = .ok found) :
    s.find? a = some found := by
  unfold Sources.find at done
  unfold Sources.find?
  split
  · rename_i current
    rw [if_pos current] at done
    exact congrArg some (Except.ok.inj done)
  · rename_i other
    rw [if_neg other] at done
    cases there : s.picture? a with
    | none =>
      rw [there] at done
      contradiction
    | some p =>
      rw [there] at done
      exact congrArg some (Except.ok.inj done)

namespace Picture

variable {rows cols : Nat}

def predictWhole? (p reference : Picture rows cols) (kind : Interpolation) (fullPixel : Bool)
    (v : MotionVector) (r c : Nat) : Option (Picture rows cols) := do
  let chroma := v.chroma fullPixel
  let luma ← p.luma.copyMotion? reference.luma kind (16 * c : Nat) (16 * r : Nat) 16 16 v
  let cb ← p.cb.copyMotion? reference.cb kind (8 * c : Nat) (8 * r : Nat) 8 8 chroma
  let cr ← p.cr.copyMotion? reference.cr kind (8 * c : Nat) (8 * r : Nat) 8 8 chroma
  return { p with luma, cb, cr }

def predictSplit? (p reference : Picture rows cols) (kind : Interpolation) (fullPixel : Bool)
    (reach : Reach) (r c : Nat) (m : Macroblock) : Option (Picture rows cols) := do
  let luma ← p.luma.predictSplitLuma? reference.luma kind reach r c m
  let cb ← p.cb.predictSplitChroma? reference.cb kind fullPixel reach r c m
  let cr ← p.cr.predictSplitChroma? reference.cr kind fullPixel reach r c m
  return { p with luma, cb, cr }

def predictInter? (p reference : Picture rows cols) (kind : Interpolation) (fullPixel : Bool)
    (r c : Nat) (m : Macroblock) : Option (Picture rows cols) :=
  let reach := Reach.ofPosition r c rows cols
  if m.mode = .split then p.predictSplit? reference kind fullPixel reach r c m
  else p.predictWhole? reference kind fullPixel (m.limit reach.clampToBorder m.vector) r c

def addResidual? (p : Picture rows cols) (r c : Nat) (residual : Residual) :
    Option (Picture rows cols) := do
  let luma ← p.luma.addLuma? r c residual.luma
  let cb ← p.cb.addChroma? r c residual.cb
  let cr ← p.cr.addChroma? r c residual.cr
  return { p with luma, cb, cr }

def reconstructIntra? (p : Picture rows cols) (r c : Nat) (m : Macroblock)
    (residual : Option Residual) : Option (Picture rows cols) := do
  let luma ← p.luma.reconstructIntraLuma? r c m (residual.map Residual.luma)
  let cb ← p.cb.reconstructIntraChroma? r c m (residual.map Residual.cb)
  let cr ← p.cr.reconstructIntraChroma? r c m (residual.map Residual.cr)
  return { p with luma, cb, cr }

def reconstructFrom? (p : Picture rows cols) (s : Sources rows cols)
    (reference : Option (Picture rows cols)) (r c : Nat) (m : Macroblock)
    (residual : Option Residual) : Option (Picture rows cols) :=
  match reference with
  | none => p.reconstructIntra? r c m residual
  | some reference => do
    let p ← p.predictInter? reference s.interpolation s.fullPixel r c m
    residual.elim (some p) (p.addResidual? r c)

def reconstruct? (p : Picture rows cols) (s : Sources rows cols) (r c : Nat) (m : Macroblock)
    (residual : Option Residual) : Option (Picture rows cols) := do
  let reference ← s.find? m.reference
  p.reconstructFrom? s reference r c m residual

variable {p reference : Picture rows cols} {r c : Nat}

theorem predictWhole?_eq (visible : Plane.Visible cols rows) (kind : Interpolation)
    (fullPixel : Bool) (v : MotionVector) (fits : Fits rows cols r c) :
    p.predictWhole? reference kind fullPixel v r c =
      some (p.predictWhole reference kind fullPixel v fits) := by
  unfold predictWhole?
  dsimp only
  rw [Plane.copyMotion?_eq (by omega) kind (by decide) v fits.1,
    Plane.copyMotion?_eq (by omega) kind (by decide) _ fits.2,
    Plane.copyMotion?_eq (by omega) kind (by decide) _ fits.2]
  rfl

theorem predictSplit?_eq (visible : Plane.Visible cols rows) (kind : Interpolation)
    (fullPixel : Bool) (reach : Reach) (fits : Fits rows cols r c) (m : Macroblock) :
    p.predictSplit? reference kind fullPixel reach r c m =
      some (p.predictSplit reference kind fullPixel reach fits m) := by
  unfold predictSplit?
  rw [Plane.predictSplitLuma?_eq (by omega) kind reach fits.1,
    Plane.predictSplitChroma?_eq (by omega) kind fullPixel reach fits.2,
    Plane.predictSplitChroma?_eq (by omega) kind fullPixel reach fits.2]
  rfl

theorem predictInter?_eq (visible : Plane.Visible cols rows) (kind : Interpolation)
    (fullPixel : Bool) (fits : Fits rows cols r c) (m : Macroblock) :
    p.predictInter? reference kind fullPixel r c m =
      some (p.predictInter reference kind fullPixel fits m) := by
  unfold predictInter? predictInter
  dsimp only
  split
  · exact predictSplit?_eq visible kind fullPixel _ fits m
  · exact predictWhole?_eq visible kind fullPixel _ fits

theorem addResidual?_eq (fits : Fits rows cols r c) (residual : Residual) :
    p.addResidual? r c residual = some (p.addResidual fits residual) := by
  unfold addResidual? Plane.addLuma? Plane.addChroma?
  rw [Plane.addBlocks?_eq residual.luma fits.1, Plane.addBlocks?_eq residual.cb fits.2,
    Plane.addBlocks?_eq residual.cr fits.2]
  rfl

theorem reconstructIntra?_eq (fits : Fits rows cols r c) (m : Macroblock)
    (residual : Option Residual) :
    p.reconstructIntra? r c m residual = some (p.reconstructIntra fits m residual) := by
  unfold reconstructIntra?
  rw [Plane.reconstructIntraLuma?_eq fits.1, Plane.reconstructIntraChroma?_eq fits.2,
    Plane.reconstructIntraChroma?_eq fits.2]
  rfl

theorem reconstructFrom?_eq (visible : Plane.Visible cols rows) (s : Sources rows cols)
    (reference : Option (Picture rows cols)) (fits : Fits rows cols r c) (m : Macroblock)
    (residual : Option Residual) :
    p.reconstructFrom? s reference r c m residual =
      some (p.reconstructFrom s reference fits m residual) := by
  cases reference with
  | none => exact reconstructIntra?_eq fits m residual
  | some reference =>
    unfold reconstructFrom? reconstructFrom
    dsimp only
    rw [predictInter?_eq visible _ _ fits]
    cases residual with
    | none => rfl
    | some residual => exact addResidual?_eq fits residual

/-- Where there is a picture behind the reference, nothing of a macroblock is refused. -/
theorem reconstruct?_eq (visible : Plane.Visible cols rows) {s : Sources rows cols} {r : Fin rows}
    {c : Fin cols} {m : Macroblock} {residual : Option Residual} {q : Picture rows cols}
    (done : p.reconstruct s r c m residual = .ok q) :
    p.reconstruct? s r c m residual = some q := by
  obtain ⟨reference, found, same⟩ := bind_ok.mp done
  unfold reconstruct?
  rw [Sources.find?_eq found]
  exact (reconstructFrom?_eq visible s reference _ m residual).trans
    (congrArg some (Except.ok.inj same))

end Picture

end Vp8
