import Vp8.Image.Pixel

/-!
Image planes with a border on every side. Positions are counted from the upper left pixel of the
picture, so the border has negative ones too. Rows follow one another in memory without a gap, so
going right from the end of one leads on to the start of the next. Every access carries the
evidence that it stays in memory.
-/
namespace Vp8

abbrev Raster (w h : Nat) := Vector (Vector UInt8 w) h

def Raster.ofFn (f : Fin h → Fin w → UInt8) : Raster w h :=
  Vector.ofFn fun r => Vector.ofFn fun c => f r c

def Raster.fill (w h : Nat) (value : UInt8) : Raster w h :=
  Vector.replicate h (Vector.replicate w value)

abbrev Spans (size start stride w h : Nat) : Prop :=
  ∀ (r : Fin h) (c : Fin w), start + r.val * stride + c.val < size

/-- Replace every byte of a block by what `f` makes of it, row by row. Rows that overlap see what
    the rows before have left. -/
def updateBlock (bytes : ByteArray) (start stride w h : Nat)
    (inside : Spans bytes.size start stride w h) (f : Fin h → Fin w → UInt8 → UInt8) :
    { out : ByteArray // out.size = bytes.size } :=
  Fin.foldl h (fun out r => Fin.foldl w (fun out c =>
    let i := start + r.val * stride + c.val
    have held : i < out.val.size := out.property.symm ▸ inside r c
    ⟨out.val.set i (f r c (out.val.get i held)) held, (Array.size_set ..).trans out.property⟩) out)
    ⟨bytes, rfl⟩

structure Plane (width height border : Nat) where
  bytes : ByteArray
  size_eq : bytes.size = (width + 2 * border) * (height + 2 * border)

namespace Plane

def area (width height border : Nat) : Nat := (width + 2 * border) * (height + 2 * border)

def offset (width border : Nat) (x y : Int) : Nat :=
  (y + border).toNat * (width + 2 * border) + (x + border).toNat

abbrev Holds (width height border : Nat) (x y : Int) : Prop :=
  -(border : Int) ≤ x ∧ -(border : Int) ≤ y ∧
    offset width border x y < (width + 2 * border) * (height + 2 * border)

abbrev Covers (width height border : Nat) (x y : Int) (w h : Nat) : Prop :=
  -(border : Int) ≤ x ∧ -(border : Int) ≤ y ∧
    Spans ((width + 2 * border) * (height + 2 * border)) (offset width border x y)
      (width + 2 * border) w h

/-- The block lies in the picture and its border, and does not reach beyond them on any side. -/
abbrev Encloses (width height border : Nat) (x y : Int) (w h : Nat) : Prop :=
  -(border : Int) ≤ x ∧ x + w ≤ width + border ∧ -(border : Int) ≤ y ∧ y + h ≤ height + border

theorem offset_add {width border : Nat} {x y : Int} (left : -(border : Int) ≤ x)
    (top : -(border : Int) ≤ y) (r c : Nat) :
    offset width border (x + c) (y + r) =
      offset width border x y + r * (width + 2 * border) + c := by
  have row : (y + r + border).toNat = (y + border).toNat + r := by omega
  have col : (x + c + border).toNat = (x + border).toNat + c := by omega
  unfold offset
  rw [row, col, Nat.add_mul]
  omega

theorem offset_lt {width height border : Nat} {x y : Int}
    (inside : Encloses width height border x y 1 1) :
    offset width border x y < (width + 2 * border) * (height + 2 * border) := by
  obtain ⟨left, right, top, bottom⟩ := inside
  have row : (y + border).toNat + 1 ≤ height + 2 * border := by omega
  have col : (x + border).toNat < width + 2 * border := by omega
  have rows := Nat.mul_le_mul_right (width + 2 * border) row
  rw [Nat.mul_comm (height + 2 * border)] at rows
  unfold offset
  rw [Nat.add_mul] at rows
  omega

theorem Encloses.holds {width height border : Nat} {x y : Int}
    (inside : Encloses width height border x y 1 1) : Holds width height border x y :=
  ⟨inside.1, inside.2.2.1, offset_lt inside⟩

theorem Encloses.covers {width height border w h : Nat} {x y : Int}
    (inside : Encloses width height border x y w h) : Covers width height border x y w h := by
  refine ⟨inside.1, inside.2.2.1, fun r c => ?_⟩
  rw [← offset_add inside.1 inside.2.2.1]
  apply offset_lt
  have := r.isLt; have := c.isLt; unfold Encloses at inside ⊢; omega

theorem Covers.holds {width height border w h : Nat} {x y u v : Int}
    (inside : Covers width height border x y w h) (left : x ≤ u) (right : u < x + w)
    (top : y ≤ v) (bottom : v < y + h) : Holds width height border u v := by
  obtain ⟨c, hc⟩ := Int.eq_ofNat_of_zero_le (show 0 ≤ u - x by omega)
  obtain ⟨r, hr⟩ := Int.eq_ofNat_of_zero_le (show 0 ≤ v - y by omega)
  obtain rfl : u = x + c := by omega
  obtain rfl : v = y + r := by omega
  refine ⟨by have := inside.1; omega, by have := inside.2.1; omega, ?_⟩
  rw [offset_add inside.1 inside.2.1]
  exact inside.2.2 ⟨r, by omega⟩ ⟨c, by omega⟩

theorem Covers.sub {width height border w h w' h' : Nat} {x y x' y' : Int}
    (inside : Covers width height border x y w h) (dx dy : Nat) (hx : x' = x + dx)
    (hy : y' = y + dy) (hw : dx + w' ≤ w) (hh : dy + h' ≤ h) :
    Covers width height border x' y' w' h' := by
  obtain ⟨left, top, spans⟩ := inside
  subst hx hy
  refine ⟨by omega, by omega, fun r c => ?_⟩
  have bound := spans ⟨dy + r.val, by omega⟩ ⟨dx + c.val, by omega⟩
  rw [offset_add left top]
  generalize (width + 2 * border) * (height + 2 * border) = size at *
  generalize width + 2 * border = stride at *
  simp only [Nat.add_mul] at bound
  omega

theorem Covers.growUp {width height border w h : Nat} {x y : Int}
    (inside : Covers width height border x y w h) (room : -(border : Int) < y) (high : 0 < h) :
    Covers width height border x (y - 1) w (h + 1) := by
  obtain ⟨left, top, spans⟩ := inside
  refine ⟨left, by omega, fun r c => ?_⟩
  have step := @offset_add width border x (y - 1) left (by omega) 1 0
  simp only [Int.natCast_zero, Int.add_zero, Int.natCast_one, Int.sub_add_cancel, Nat.one_mul,
    Nat.add_zero] at step
  generalize (width + 2 * border) * (height + 2 * border) = size at *
  generalize width + 2 * border = stride at *
  rcases Nat.eq_zero_or_pos r.val with zero | positive
  · have bound := spans ⟨0, high⟩ c
    rw [zero]
    simp only [Nat.zero_mul, Nat.add_zero] at bound ⊢
    omega
  · have bound := spans ⟨r.val - 1, by omega⟩ c
    obtain ⟨k, hk⟩ : ∃ k, r.val = k + 1 := ⟨r.val - 1, by omega⟩
    simp only [hk, Nat.add_sub_cancel, Nat.add_mul, Nat.one_mul] at bound ⊢
    omega

theorem Covers.growLeft {width height border w h : Nat} {x y : Int}
    (inside : Covers width height border x y w h) (room : -(border : Int) < x) (wide : 0 < w) :
    Covers width height border (x - 1) y (w + 1) h := by
  obtain ⟨left, top, spans⟩ := inside
  refine ⟨by omega, top, fun r c => ?_⟩
  have step := @offset_add width border (x - 1) y (by omega) top 0 1
  simp only [Int.natCast_zero, Int.add_zero, Int.natCast_one, Int.sub_add_cancel, Nat.zero_mul,
    Nat.add_zero] at step
  generalize (width + 2 * border) * (height + 2 * border) = size at *
  generalize width + 2 * border = stride at *
  have bound := spans r ⟨c.val - 1, by omega⟩
  simp only at bound
  omega

theorem Covers.right {width height border w h k : Nat} {x y : Int}
    (inside : Covers width height border x y w h) (several : 1 < h) (wide : 0 < w)
    (short : k ≤ width + 2 * border) : Covers width height border (x + w) y k 1 := by
  obtain ⟨left, top, spans⟩ := inside
  refine ⟨by omega, top, fun r c => ?_⟩
  have step := @offset_add width border x y left top 0 w
  have bound := spans ⟨1, several⟩ ⟨w - 1, by omega⟩
  simp only [Int.natCast_zero, Int.add_zero, Nat.zero_mul, Nat.add_zero, Nat.one_mul] at step bound
  have first : r.val = 0 := by omega
  rw [first, step, Nat.zero_mul]
  generalize (width + 2 * border) * (height + 2 * border) = size at *
  generalize width + 2 * border = stride at *
  omega

theorem Covers.rowAbove {width height border n : Nat} {x y : Int}
    (inside : Covers width height border x y n n) (left : -(border : Int) < x)
    (top : -(border : Int) < y) (some : 0 < n) :
    Covers width height border (x - 1) (y - 1) (n + 1) 1 :=
  ((inside.growUp top some).growLeft left some).sub 0 0 (by omega) (by omega) (by omega) (by omega)

theorem Covers.columnLeft {width height border n : Nat} {x y : Int}
    (inside : Covers width height border x y n n) (left : -(border : Int) < x)
    (top : -(border : Int) < y) (some : 0 < n) :
    Covers width height border (x - 1) (y - 1) 1 (n + 1) :=
  ((inside.growUp top some).growLeft left some).sub 0 0 (by omega) (by omega) (by omega) (by omega)

theorem Covers.part {width height border n : Nat} {x y : Int}
    (inside : Covers width height border x y (4 * n) (4 * n)) (i j : Fin n) :
    Covers width height border (x + (4 * i.val : Nat)) (y + (4 * j.val : Nat)) 4 4 :=
  inside.sub (4 * i.val) (4 * j.val) rfl rfl (by omega) (by omega)

variable {width height border : Nat}

def pixel (p : Plane width height border) (x y : Int) (inside : Holds width height border x y) :
    UInt8 :=
  p.bytes.get (offset width border x y) (p.size_eq ▸ inside.2.2)

def set (p : Plane width height border) (x y : Int) (value : UInt8)
    (inside : Holds width height border x y) : Plane width height border where
  bytes := p.bytes.set (offset width border x y) value (p.size_eq ▸ inside.2.2)
  size_eq := (Array.size_set ..).trans p.size_eq

theorem encloses_of_lt {i : Nat} (inside : i < (width + 2 * border) * (height + 2 * border)) :
    Encloses width height border ((i % (width + 2 * border) : Nat) - border)
      ((i / (width + 2 * border) : Nat) - border) 1 1 := by
  have some : 0 < width + 2 * border := Nat.pos_of_lt_mul_right inside
  have col := Nat.mod_lt i some
  have row := Nat.div_lt_of_lt_mul inside
  unfold Encloses
  generalize i % (width + 2 * border) = x at *
  generalize i / (width + 2 * border) = y at *
  omega

def ofFn (f : (x y : Int) → Encloses width height border x y 1 1 → UInt8) :
    Plane width height border where
  bytes := ⟨Array.ofFn fun i : Fin ((width + 2 * border) * (height + 2 * border)) =>
    f _ _ (encloses_of_lt i.isLt)⟩
  size_eq := by simp [ByteArray.size]

def blank (width height border : Nat) : Plane width height border where
  bytes := ⟨Array.replicate ((width + 2 * border) * (height + 2 * border)) 0⟩
  size_eq := by simp [ByteArray.size]

def update (p : Plane width height border) (x y : Int) (w h : Nat)
    (inside : Covers width height border x y w h) (f : Fin h → Fin w → UInt8 → UInt8) :
    Plane width height border :=
  let out := updateBlock p.bytes (offset width border x y) (width + 2 * border) w h
    (p.size_eq ▸ inside.2.2) f
  ⟨out.val, out.property.trans p.size_eq⟩

def store (p : Plane width height border) (x y : Int) (block : Raster w h)
    (inside : Covers width height border x y w h) : Plane width height border :=
  p.update x y w h inside fun r c _ => (block.get r).get c

def fill (p : Plane width height border) (x y : Int) (w h : Nat) (value : UInt8)
    (inside : Covers width height border x y w h) : Plane width height border :=
  p.update x y w h inside fun _ _ _ => value

def run (p : Plane width height border) (x y : Int) (count : Nat) : ByteArray :=
  let start := offset width border x y
  p.bytes.extract start (start + count)

def crop (p : Plane width height border) (w h : Nat) : ByteArray :=
  Nat.fold h (fun y _ out => out ++ p.run 0 y w) ByteArray.empty

def clampCoordinate (size : Nat) (i : Int) : Int := saturate 0 (size - 1) i

theorem clampCoordinate_bounds {size : Nat} (positive : 0 < size) (i : Int) :
    0 ≤ clampCoordinate size i ∧ clampCoordinate size i < size := by
  unfold clampCoordinate saturate; omega

abbrev Visible (width height : Nat) : Prop := 0 < width ∧ 0 < height

theorem Visible.holds (visible : Visible width height) (x y : Int) :
    Holds width height border (clampCoordinate width x) (clampCoordinate height y) := by
  have := clampCoordinate_bounds visible.1 x
  have := clampCoordinate_bounds visible.2 y
  apply Encloses.holds
  unfold Encloses; omega

def extended (p : Plane width height border) (visible : Visible width height) (x y : Int) : UInt8 :=
  p.pixel (clampCoordinate width x) (clampCoordinate height y) (visible.holds x y)

/-- The row that a row of the plane is continued from: the last one below the picture, the first one
    above it. Without rows in the picture, this is the first row behind its upper border. -/
def sourceRow (height : Nat) (y : Int) : Int := max (min y (height - 1)) 0

/-- The column that a column is continued from. Without columns in the picture, the first one behind
    the left border and the last one of the left border change sides. -/
def sourceColumn (width : Nat) (x : Int) : Int :=
  if x < 0 then 0 else if (width : Int) ≤ x then width - 1 else x

theorem Encloses.source {x y : Int} (inside : Encloses width height border x y 1 1) :
    Encloses width height border x (sourceRow height y) 1 1 ∧
      Encloses width height border (sourceColumn width x) (sourceRow height y) 1 1 := by
  unfold Encloses at *
  unfold sourceRow sourceColumn
  refine ⟨by omega, ?_⟩
  split
  · omega
  · split <;> omega

/-- Continue the rows of the picture to both sides, and then its first and last row over the rows
    above and below. -/
def extend (p : Plane width height border) : Plane width height border :=
  ofFn fun x y inside =>
    if sourceRow height y < height then
      p.pixel (sourceColumn width x) (sourceRow height y) inside.source.2.holds
    else p.pixel x (sourceRow height y) inside.source.1.holds

end Plane

end Vp8
