import Vp8.Entropy.Writer
import Vp8.Table

/-!
Coded values. A value in a partition is a path through a decision tree whose branches carry the
probability of `false`; `Coded` is that tree, apart from the bytes and from the arithmetic. One
walk, `Coded.read`, takes its branches from a `BoolReader`, and everything the stream holds is
described as a `Coded` value.
-/
namespace Vp8

inductive Coded (α : Type) where
  | value (a : α)
  | choice (prob : UInt8) (next : Bool → Coded α)

namespace Coded

def bind (t : Coded α) (f : α → Coded β) : Coded β :=
  match t with
  | value a => f a
  | choice prob next => choice prob fun bit => (next bit).bind f

instance : Monad Coded where
  pure := value
  bind := bind

def read : Coded α → BoolReader → α × BoolReader
  | value a, r => (a, r)
  | choice prob next, r =>
    let (bit, r) := r.read prob
    (next bit).read r

def bool (prob : UInt8) : Coded Bool := choice prob value

def flag : Coded Bool := bool 128

def literalFrom (high : Nat) : Nat → Coded Nat
  | 0 => pure high
  | width + 1 => do
    let bit ← flag
    literalFrom ((2 * high + bit.toNat) % 4294967296) width

/-- An unsigned number of `width` bits, most significant first. It is a 32-bit word: a wider
    literal keeps its last 32 bits. -/
def literal (width : Nat) : Coded Nat := literalFrom 0 width

def byte : Coded UInt8 := do return (← literal 8).toUInt8

def signed (width : Nat) : Coded Int := do
  let magnitude := (Int.ofNat (← literal width)).bmod 4294967296
  if ← flag then return -magnitude else return magnitude

/-- A presence flag and then a signed number; an absent one is zero. -/
def optionalSigned (width : Nat) : Coded Int := do
  if ← flag then signed width else return 0

end Coded

def readEach (xs : Vector α n) (f : (i : Fin n) → α → Coded β) : Coded (Vector β n) :=
  xs.mapFinIdxM fun i x h => f ⟨i, h⟩ x

end Vp8
