import Mathlib.Algebra.BigOperators.Fin
import Vp8.Proofs.Image.Border
import Vp8.Proofs.Prediction.Border
import Vp8.Proofs.Prediction.Checked

/-!
Motion compensated prediction, pixel by pixel. A predicted pixel is a weighted mean of weighted
means along the rows of the reference, wherever in a block it lies. So it does not show how it came
about: by a copy or through filters, row by row or pixel by pixel, and in one block or in several.
-/
namespace Vp8

namespace Interpolation

/-- As many pixels of a line as there are weights, from `start` on, in a rounded mean. -/
def weighted {n : Nat} (weights : Vector Int n) (line : Int → UInt8) (start : Int) : UInt8 :=
  roundTaps (∑ t : Fin n, weights.get t * (line (start + t.val)).toNat)

def filtered (kind : Interpolation) (f : Fin 8) (line : Int → UInt8) (i : Int) : UInt8 :=
  match kind with
  | .sixTap => weighted (sixTapFilters.get f) line (i - 2)
  | .bilinear => weighted (bilinearFilters.get f) line i

theorem tap_eq_filtered (kind : Interpolation) (f : Fin 8) : tap kind f = filtered kind f := by
  funext line i
  cases kind with
  | sixTap =>
    obtain ⟨start, rfl⟩ : ∃ start, i = start + 2 := ⟨i - 2, by omega⟩
    simp [tap, applySix, filtered, weighted, Fin.sum_univ_six, add_assoc, add_sub_assoc]
    rfl
  | bilinear =>
    simp [tap, applyTwo, filtered, weighted, Fin.sum_univ_two]
    rfl

end Interpolation

namespace Plane

open Interpolation MotionVector

variable {width height border wide high margin w h : Nat}

/-- What a vector predicts at a position: the rows of the reference are filtered around the place
    that it points to, and then the column of what they have become. -/
def interpolated (reference : Plane wide high margin) (visible : Visible wide high)
    (kind : Interpolation) (v : MotionVector) (x y : Int) : UInt8 :=
  filtered kind (phase v.row) (fun j =>
    filtered kind (phase v.col) (fun i => reference.extended visible i j) (x + whole v.col))
    (y + whole v.row)

theorem copyMotion_painted (p : Plane width height border) (reference : Plane wide high margin)
    (visible : Visible wide high) (kind : Interpolation) {x y : Int} (v : MotionVector)
    (inside : Encloses width height border x y w h) (covers : Covers width height border x y w h) :
    Painted (InBlock x y w h) (reference.interpolated visible kind v) p
      (p.copyMotion reference kind x y w h v covers) := by
  apply store_painted p _ inside
  intro r c row col
  rw [predictMotion_getElem reference visible]
  simp only [tap_eq_filtered, interpolated, add_right_comm]

theorem predictMotion_eq_filterMotion (reference : Plane wide high margin)
    (visible : Visible wide high) (kind : Interpolation) (x y : Int) (w h : Nat)
    (v : MotionVector) :
    reference.predictMotion kind x y w h v = reference.filterMotion kind x y w h v := by
  apply Vector.ext
  intro r row
  apply Vector.ext
  intro c col
  rw [predictMotion_getElem reference visible, filterMotion_getElem reference visible]

structure Part (w h : Nat) where
  left : Nat
  top : Nat
  width : Nat
  height : Nat
  narrow : left + width ≤ w := by omega
  low : top + height ≤ h := by omega

def Part.Holds (part : Part w h) (x y : Int) : Region :=
  InBlock (x + part.left) (y + part.top) part.width part.height

abbrev Covering (parts : List (Part w h)) : Prop :=
  ∀ (r : Fin h) (c : Fin w), ∃ part ∈ parts,
    part.left ≤ c.val ∧ c.val < part.left + part.width ∧
      part.top ≤ r.val ∧ r.val < part.top + part.height

def copyParts (p : Plane width height border) (reference : Plane wide high margin)
    (kind : Interpolation) (x y : Int) (v : MotionVector)
    (inside : Covers width height border x y w h) (parts : List (Part w h)) :
    Plane width height border :=
  parts.foldl (fun p part => p.copyMotion reference kind (x + part.left) (y + part.top) part.width
    part.height v (inside.sub part.left part.top rfl rfl part.narrow part.low)) p

theorem copyParts_painted (p : Plane width height border) (reference : Plane wide high margin)
    (visible : Visible wide high) (kind : Interpolation) {x y : Int} (v : MotionVector)
    (inside : Encloses width height border x y w h) (covers : Covers width height border x y w h)
    (parts : List (Part w h)) :
    Painted (fun u t => ∃ part ∈ parts, part.Holds x y u t) (reference.interpolated visible kind v)
      p (p.copyParts reference kind x y v covers parts) := by
  induction parts generalizing p with
  | nil => exact (Painted.nothing p).congr (by simp)
  | cons part parts ih =>
    have place : Encloses width height border (x + part.left) (y + part.top) part.width
        part.height := by
      have := part.narrow
      have := part.low
      unfold Encloses at inside ⊢
      omega
    have first := p.copyMotion_painted reference visible kind v place
      (covers.sub part.left part.top rfl rfl part.narrow part.low)
    refine (first.join (ih _)).congr ?_
    simp [Part.Holds]

theorem Covering.holds_iff {parts : List (Part w h)} (covering : Covering parts) (x y u t : Int) :
    (∃ part ∈ parts, part.Holds x y u t) ↔ InBlock x y w h u t := by
  constructor
  · rintro ⟨part, -, held⟩
    have := part.narrow
    have := part.low
    unfold Part.Holds InBlock at held
    unfold InBlock
    omega
  · intro block
    unfold InBlock at block
    obtain ⟨part, member, held⟩ := covering ⟨(t - y).toNat, by omega⟩ ⟨(u - x).toNat, by omega⟩
    refine ⟨part, member, ?_⟩
    unfold Part.Holds InBlock
    dsimp only at held
    omega

/-- A block is predicted pixel by pixel, from the reference as it goes on beyond its edges, and
    nothing else is changed. It is the same whether whole vectors are copied or filtered, whether
    rows inside the picture are read as a whole, with every access checked, and into which parts the
    block is cut. -/
theorem motion_is_interpolated (p : Plane width height border) (reference : Plane wide high margin)
    (visible : Visible wide high) (kind : Interpolation) {x y : Int} {w h : Nat} (v : MotionVector)
    (inside : Encloses width height border x y w h) :
    Painted (InBlock x y w h) (reference.interpolated visible kind v) p
      (p.copyMotion reference kind x y w h v inside.covers) ∧
    reference.predictMotion kind x y w h v = reference.filterMotion kind x y w h v ∧
    (w ≤ 16 → h ≤ 16 → p.copyMotion? reference kind x y w h v =
      some (p.copyMotion reference kind x y w h v inside.covers)) ∧
    ∀ parts : List (Part w h), Covering parts →
      p.copyParts reference kind x y v inside.covers parts =
        p.copyMotion reference kind x y w h v inside.covers := by
  have painted := p.copyMotion_painted reference visible kind v inside inside.covers
  refine ⟨painted, reference.predictMotion_eq_filterMotion visible kind x y w h v, ?_, ?_⟩
  · intro narrow low
    exact copyMotion?_eq visible kind ⟨narrow, low⟩ v inside.covers
  · intro parts covering
    have cut := p.copyParts_painted reference visible kind v inside inside.covers parts
    exact (cut.congr (covering.holds_iff x y)).unique painted

def pair : Plane 2 1 0 := ofFn fun x _ _ => if x = 0 then 40 else 200

/-- A block between the two pixels and behind the second one, in two parts. -/
theorem pair_is_interpolated :
    let v : MotionVector := ⟨3, -12⟩
    let p := blank 4 3 1
    let inside : Encloses 4 3 1 1 1 3 2 := by decide
    let q := p.copyMotion pair .sixTap 1 1 3 2 v inside.covers
    q.sample 2 1 = 120 ∧ q.sample 0 1 = 0 ∧ p.copyMotion? pair .sixTap 1 1 3 2 v = some q ∧
      p.copyParts pair .sixTap 1 1 v inside.covers
        [{ left := 0, top := 0, width := 2, height := 2 },
          { left := 2, top := 0, width := 1, height := 2 }] = q := by
  intro v p inside q
  obtain ⟨painted, _, checked, cut⟩ :=
    p.motion_is_interpolated pair ⟨by decide, by decide⟩ .sixTap v inside
  refine ⟨?_, painted.outside 0 1 (by decide), checked (by decide) (by decide), cut _ (by decide)⟩
  rw [painted.inside 2 1 (by decide)]
  decide +kernel

end Plane

end Vp8
