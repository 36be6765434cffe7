import Vp8.Deblocking.Level
import Vp8.Image.Plane

/-!
Filtering one edge. Each line of pixels across the edge is filtered on its own: four pixels on each
side are looked at and at most three of them are changed, in arithmetic on signed bytes that
saturates at every step.
-/
namespace Vp8

/-- Eight pixels across an edge, from the fourth before it to the fourth behind it. -/
structure Taps where
  p3 : UInt8
  p2 : UInt8
  p1 : UInt8
  p0 : UInt8
  q0 : UInt8
  q1 : UInt8
  q2 : UInt8
  q3 : UInt8
  deriving DecidableEq, Repr

inductive EdgeKind where
  | outer
  | inner
  deriving DecidableEq, Repr

def EdgeKind.limit (limits : EdgeLimits) : EdgeKind → Int
  | outer => limits.outer
  | inner => limits.inner

namespace Taps

def difference (a b : UInt8) : Int := ((a.toNat : Int) - b.toNat).natAbs

def toSigned (a : UInt8) : Int := (a.toNat : Int) - 128

def ofSigned (x : Int) : UInt8 := clampByte (x + 128)

def smallStep (t : Taps) (limit : Int) : Bool :=
  difference t.p0 t.q0 * 2 + difference t.p1 t.q1 / 2 ≤ limit

def smooth (t : Taps) (interior : Int) : Bool :=
  difference t.p3 t.p2 ≤ interior && difference t.p2 t.p1 ≤ interior &&
  difference t.p1 t.p0 ≤ interior && difference t.q1 t.q0 ≤ interior &&
  difference t.q2 t.q1 ≤ interior && difference t.q3 t.q2 ≤ interior

def varied (t : Taps) (threshold : Int) : Bool :=
  threshold < difference t.p1 t.p0 || threshold < difference t.q1 t.q0

def correction (t : Taps) (withOuter : Bool) : Int :=
  let outer := if withOuter then clampSigned (toSigned t.p1 - toSigned t.q1) else 0
  clampSigned (outer + 3 * (toSigned t.q0 - toSigned t.p0))

def adjustNearest (t : Taps) (f : Int) : Taps :=
  { t with
    q0 := ofSigned (toSigned t.q0 - clampSigned (f + 4) / 8)
    p0 := ofSigned (toSigned t.p0 + clampSigned (f + 3) / 8) }

def simpleFilter (t : Taps) : Taps := t.adjustNearest (t.correction true)

/-- The filter inside macroblocks changes two pixels on each side, or one where they vary. -/
def innerFilter (t : Taps) (varied : Bool) : Taps :=
  let f := t.correction varied
  let nearest := t.adjustNearest f
  if varied then nearest
  else
    let a := (clampSigned (f + 4) / 8 + 1) / 2
    { nearest with
      q1 := ofSigned (toSigned t.q1 - a)
      p1 := ofSigned (toSigned t.p1 + a) }

def part (weight f : Int) : Int := clampSigned ((weight * f + 63) / 128)

def outerFilter (t : Taps) (varied : Bool) : Taps :=
  let f := t.correction true
  if varied then t.adjustNearest f
  else
    { t with
      q0 := ofSigned (toSigned t.q0 - part 27 f)
      p0 := ofSigned (toSigned t.p0 + part 27 f)
      q1 := ofSigned (toSigned t.q1 - part 18 f)
      p1 := ofSigned (toSigned t.p1 + part 18 f)
      q2 := ofSigned (toSigned t.q2 - part 9 f)
      p2 := ofSigned (toSigned t.p2 + part 9 f) }

def filter? (t : Taps) (filter : FilterKind) (kind : EdgeKind) (limits : EdgeLimits) :
    Option Taps :=
  if !t.smallStep (kind.limit limits) then none
  else match filter with
    | .simple => some t.simpleFilter
    | .normal =>
      if !t.smooth limits.interior then none
      else
        let varied := t.varied limits.variance
        match kind with
        | .outer => some (t.outerFilter varied)
        | .inner => some (t.innerFilter varied)

end Taps

inductive Orientation where
  | vertical
  | horizontal
  deriving DecidableEq, Repr

/-- An edge of `length` lines. Its position is that of the first pixel behind it. -/
structure Edge where
  orientation : Orientation
  x : Int
  y : Int
  length : Nat
  deriving DecidableEq, Repr

namespace Edge

def tapX (e : Edge) (i k : Nat) : Int :=
  match e.orientation with
  | .vertical => e.x + k - 4
  | .horizontal => e.x + i

def tapY (e : Edge) (i k : Nat) : Int :=
  match e.orientation with
  | .vertical => e.y + i
  | .horizontal => e.y + k - 4

def Inside (e : Edge) (width height border : Nat) : Prop :=
  match e.orientation with
  | .vertical => Plane.Covers width height border (e.x - 4) e.y 8 e.length
  | .horizontal => Plane.Covers width height border e.x (e.y - 4) e.length 8

theorem Inside.holds {e : Edge} {width height border : Nat} (inside : e.Inside width height border)
    {i k : Nat} (line : i < e.length) (tap : k < 8) :
    Plane.Holds width height border (e.tapX i k) (e.tapY i k) := by
  unfold Inside at inside; unfold tapX tapY
  cases ho : e.orientation <;> simp only [ho] at inside ⊢ <;>
    exact inside.holds (by omega) (by omega) (by omega) (by omega)

end Edge

namespace Plane

variable {width height border : Nat}

def taps (p : Plane width height border) (e : Edge) (inside : e.Inside width height border)
    (i : Fin e.length) : Taps :=
  let tap (k : Fin 8) := p.pixel (e.tapX i k) (e.tapY i k) (inside.holds i.isLt k.isLt)
  ⟨tap 0, tap 1, tap 2, tap 3, tap 4, tap 5, tap 6, tap 7⟩

def setTaps (p : Plane width height border) (e : Edge) (inside : e.Inside width height border)
    (i : Fin e.length) (t : Taps) : Plane width height border :=
  let put (p : Plane width height border) (k : Fin 8) (value : UInt8) :=
    p.set (e.tapX i k) (e.tapY i k) value (inside.holds i.isLt k.isLt)
  put (put (put (put (put (put p 1 t.p2) 2 t.p1) 3 t.p0) 4 t.q0) 5 t.q1) 6 t.q2

def filterLine (filter : FilterKind) (kind : EdgeKind) (limits : EdgeLimits) (e : Edge)
    (inside : e.Inside width height border) (p : Plane width height border) (i : Fin e.length) :
    Plane width height border :=
  match (p.taps e inside i).filter? filter kind limits with
  | none => p
  | some t => p.setTaps e inside i t

def filterEdge (p : Plane width height border) (filter : FilterKind) (kind : EdgeKind)
    (limits : EdgeLimits) (e : Edge) (inside : e.Inside width height border) :
    Plane width height border :=
  Fin.foldl e.length (filterLine filter kind limits e inside) p

end Plane

end Vp8
