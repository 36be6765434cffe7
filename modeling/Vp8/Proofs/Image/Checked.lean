import Vp8.Frame.Output
import Vp8.Proofs.Checked

/-!
Planes whose accesses are checked when they are made. Nothing is known about a position before; an
access that leaves memory yields nothing, and nothing comes of all that was to follow it. With the
evidence that the plain operations ask for, no access is refused, and both do the same.
-/
namespace Vp8

namespace Plane

variable {width height border : Nat}

def pixel? (p : Plane width height border) (x y : Int) : Option UInt8 :=
  demand (Holds width height border x y) (p.pixel x y)

def set? (p : Plane width height border) (x y : Int) (value : UInt8) :
    Option (Plane width height border) :=
  demand (Holds width height border x y) (p.set x y value)

def update? (p : Plane width height border) (x y : Int) (w h : Nat)
    (f : Fin h → Fin w → UInt8 → UInt8) : Option (Plane width height border) :=
  demand (Covers width height border x y w h) fun inside => p.update x y w h inside f

def store? (p : Plane width height border) (x y : Int) (block : Raster w h) :
    Option (Plane width height border) :=
  p.update? x y w h fun r c _ => (block.get r).get c

def fill? (p : Plane width height border) (x y : Int) (w h : Nat) (value : UInt8) :
    Option (Plane width height border) :=
  p.update? x y w h fun _ _ _ => value

def row? (p : Plane width height border) (x y : Int) (count : Nat) : Option (Vector UInt8 count) :=
  Vector.ofFnM fun i => p.pixel? (x + i.val) y

def slice? (p : Plane width height border) (x y : Int) (count : Nat) : Option ByteArray :=
  demand (-(border : Int) ≤ x ∧ -(border : Int) ≤ y ∧
    offset width border x y + count ≤ p.bytes.size) fun _ => p.run x y count

def setIntraEdges? (p : Plane width height border) : Option (Plane width height border) := do
  let p ← p.fill? (-1) (-1) (width + 5) 1 127
  p.fill? (-1) 0 1 height 129

def extendRowRight? (p : Plane width height border) (y : Int) :
    Option (Plane width height border) := do
  let last ← p.pixel? (width - 1) y
  p.fill? (width - 1) y 5 1 last

def crop? (p : Plane width height border) (w h : Nat) : Option ByteArray :=
  Fin.foldlM h (fun out y => do
    let row ← p.slice? 0 y.val width
    let part ← demand (w ≤ row.size) fun _ => row.extract 0 w
    return out ++ part) ByteArray.empty

def ofFn? (f : (x y : Int) → Option UInt8) : Option (Plane width height border) := do
  let bytes : Vector UInt8 ((width + 2 * border) * (height + 2 * border)) ← Vector.ofFnM fun i =>
    f ((i.val % (width + 2 * border) : Nat) - border)
      ((i.val / (width + 2 * border) : Nat) - border)
  return ⟨⟨bytes.toArray⟩, bytes.size_toArray⟩

def extend? (p : Plane width height border) : Option (Plane width height border) :=
  ofFn? fun x y =>
    if sourceRow height y < height then p.pixel? (sourceColumn width x) (sourceRow height y)
    else p.pixel? x (sourceRow height y)

variable {p : Plane width height border} {x y : Int}

theorem pixel?_eq (inside : Holds width height border x y) :
    p.pixel? x y = some (p.pixel x y inside) := demand_eq inside _

theorem set?_eq (inside : Holds width height border x y) (value : UInt8) :
    p.set? x y value = some (p.set x y value inside) := demand_eq inside _

theorem update?_eq {w h : Nat} (inside : Covers width height border x y w h)
    (f : Fin h → Fin w → UInt8 → UInt8) :
    p.update? x y w h f = some (p.update x y w h inside f) := demand_eq inside _

theorem store?_eq {w h : Nat} (block : Raster w h) (inside : Covers width height border x y w h) :
    p.store? x y block = some (p.store x y block inside) := update?_eq inside _

theorem fill?_eq {w h : Nat} (value : UInt8) (inside : Covers width height border x y w h) :
    p.fill? x y w h value = some (p.fill x y w h value inside) := update?_eq inside _

theorem row?_eq {count : Nat} (inside : Covers width height border x y count 1) :
    p.row? x y count = some (.ofFn fun i => p.pixel (x + i.val) y
      (inside.holds (by omega) (by omega) (by omega) (by omega))) := by
  apply ofFnM_some
  intro i
  exact pixel?_eq _

theorem setIntraEdges?_eq (room : EdgeRoom width height border) :
    p.setIntraEdges? = some (p.setIntraEdges room) := by
  unfold setIntraEdges?
  rw [fill?_eq 127 room.1]
  exact fill?_eq 129 room.2

theorem extendRowRight?_eq (room : Covers width height border (width - 1) y 5 1) :
    p.extendRowRight? y = some (p.extendRowRight y room) := by
  have last : Holds width height border (width - 1) y :=
    room.holds (by omega) (by omega) (by omega) (by omega)
  unfold extendRowRight?
  rw [pixel?_eq last]
  exact fill?_eq _ room

theorem row_end_le {y : Nat} (inside : y < height) :
    offset width border 0 y + width ≤ (width + 2 * border) * (height + 2 * border) := by
  have high : y + border + 1 ≤ height + 2 * border := by omega
  have below := Nat.mul_le_mul_right (width + 2 * border) high
  rw [Nat.mul_comm (height + 2 * border), Nat.add_mul] at below
  have row : ((y : Int) + border).toNat = y + border := by omega
  have column : ((0 : Int) + border).toNat = border := by omega
  unfold offset
  rw [row, column]
  omega

theorem slice?_eq {y : Nat} (inside : y < height) :
    p.slice? 0 y width = some (p.run 0 y width) := by
  apply demand_eq
  rw [p.size_eq]
  exact ⟨by omega, by omega, row_end_le inside⟩

theorem crop?_eq {w h : Nat} (narrow : w ≤ width) (low : h ≤ height) :
    p.crop? w h = some (p.crop w h) := by
  unfold crop? crop
  rw [Nat.fold_eq_finRange_foldl, ← Fin.foldl_eq_finRange_foldl]
  apply foldlM_some
  intro out y
  have inside : y.val < height := by omega
  have stop : offset width border 0 y.val + width ≤ p.bytes.size := by
    rw [p.size_eq]
    exact row_end_le inside
  have long : (p.run 0 y.val width).size = width := by
    unfold run
    rw [ByteArray.size_extract]
    omega
  have part : (p.run 0 y.val width).extract 0 w = p.run 0 y.val w := by
    unfold run
    dsimp only
    rw [ByteArray.extract_extract]
    congr 1
    omega
  rw [slice?_eq inside]
  dsimp only [Option.bind_eq_bind, Option.bind_some]
  rw [demand_eq (by rw [long]; exact narrow), part]
  rfl

theorem ofFn?_eq {f? : (x y : Int) → Option UInt8}
    {f : (x y : Int) → Encloses width height border x y 1 1 → UInt8}
    (each : ∀ x y inside, f? x y = some (f x y inside)) : ofFn? f? = some (ofFn f) := by
  unfold ofFn?
  rw [ofFnM_some fun i => each _ _ (encloses_of_lt i.isLt)]
  dsimp only [Option.bind_eq_bind, Option.bind_some]
  unfold ofFn
  simp only [Vector.toArray_ofFn, Option.pure_def]

theorem extend?_eq : p.extend? = some p.extend := by
  apply ofFn?_eq
  intro x y inside
  split
  · exact pixel?_eq _
  · exact pixel?_eq _

end Plane

namespace Picture

variable {rows cols : Nat}

def setIntraEdges? (p : Picture rows cols) : Option (Picture rows cols) := do
  let luma ← p.luma.setIntraEdges?
  let cb ← p.cb.setIntraEdges?
  let cr ← p.cr.setIntraEdges?
  return { p with luma, cb, cr }

def extend? (p : Picture rows cols) : Option (Picture rows cols) := do
  let luma ← p.luma.extend?
  let cb ← p.cb.extend?
  let cr ← p.cr.extend?
  return { p with luma, cb, cr }

theorem setIntraEdges?_eq (p : Picture rows cols) : p.setIntraEdges? = some p.setIntraEdges := by
  unfold setIntraEdges?
  rw [Plane.setIntraEdges?_eq (Plane.edgeRoom luma_room),
    Plane.setIntraEdges?_eq (Plane.edgeRoom chroma_room),
    Plane.setIntraEdges?_eq (Plane.edgeRoom chroma_room)]
  rfl

theorem extend?_eq (p : Picture rows cols) : p.extend? = some p.extend := by
  unfold extend?
  rw [Plane.extend?_eq, Plane.extend?_eq, Plane.extend?_eq]
  rfl

end Picture

namespace Frame

def toI420? (f : Frame) : Option ByteArray := do
  let w := (f.width + 1) / 2
  let h := (f.height + 1) / 2
  let luma ← f.picture.luma.crop? f.width f.height
  let cb ← f.picture.cb.crop? w h
  let cr ← f.picture.cr.crop? w h
  return luma ++ cb ++ cr

theorem le_macroblocksFor (pixels : Nat) :
    pixels ≤ 16 * macroblocksFor pixels ∧ (pixels + 1) / 2 ≤ 8 * macroblocksFor pixels := by
  unfold macroblocksFor
  omega

theorem toI420?_eq (f : Frame) : f.toI420? = some f.toI420 := by
  have wide := le_macroblocksFor f.width
  have high := le_macroblocksFor f.height
  unfold toI420?
  dsimp only
  rw [Plane.crop?_eq wide.1 high.1, Plane.crop?_eq wide.2 high.2, Plane.crop?_eq wide.2 high.2]
  rfl

end Frame

end Vp8
