import Vp8.Image.Plane

/-!
Pictures: a luma plane and two chroma planes of half its size, cut to whole macroblocks.
-/
namespace Vp8

namespace Plane

variable {width height border : Nat}

abbrev EdgeRoom (width height border : Nat) : Prop :=
  Covers width height border (-1) (-1) (width + 5) 1 ∧ Covers width height border (-1) 0 1 height

theorem edgeRoom (wide : 4 ≤ border) : EdgeRoom width height border :=
  ⟨Encloses.covers (by unfold Encloses; omega), Encloses.covers (by unfold Encloses; omega)⟩

/-- What intra prediction sees outside the picture: 127 in the row above it, from the corner on the
    left to four pixels beyond the right edge, and 129 in the column to its left. -/
def setIntraEdges (p : Plane width height border) (room : EdgeRoom width height border) :
    Plane width height border :=
  (p.fill (-1) (-1) (width + 5) 1 127 room.1).fill (-1) 0 1 height 129 room.2

def extendRowRight (p : Plane width height border) (y : Int)
    (room : Covers width height border (width - 1) y 5 1) : Plane width height border :=
  let last := p.pixel (width - 1) y (room.holds (by omega) (by omega) (by omega) (by omega))
  p.fill (width - 1) y 5 1 last room

end Plane

/-- Borders are wide enough for what prediction and filters look at. -/
theorem luma_room : 4 ≤ 32 := by decide

theorem chroma_room : 4 ≤ 16 := by decide

structure Picture (rows cols : Nat) where
  luma : Plane (16 * cols) (16 * rows) 32
  cb : Plane (8 * cols) (8 * rows) 16
  cr : Plane (8 * cols) (8 * rows) 16
  damaged : Bool

namespace Picture

def blank (rows cols : Nat) : Picture rows cols where
  luma := .blank ..
  cb := .blank ..
  cr := .blank ..
  damaged := false

def blocks (rows cols : Nat) : List Nat :=
  [Plane.area (16 * cols) (16 * rows) 32, Plane.area (8 * cols) (8 * rows) 16,
    Plane.area (8 * cols) (8 * rows) 16]

def setIntraEdges (p : Picture rows cols) : Picture rows cols where
  luma := p.luma.setIntraEdges (Plane.edgeRoom luma_room)
  cb := p.cb.setIntraEdges (Plane.edgeRoom chroma_room)
  cr := p.cr.setIntraEdges (Plane.edgeRoom chroma_room)
  damaged := p.damaged

def extend (p : Picture rows cols) : Picture rows cols where
  luma := p.luma.extend
  cb := p.cb.extend
  cr := p.cr.extend
  damaged := p.damaged

end Picture

end Vp8
