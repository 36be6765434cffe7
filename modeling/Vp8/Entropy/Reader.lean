/-!
The boolean arithmetic reader. A partition is one long binary fraction; the reader keeps a 64-bit
window on it whose top byte is compared with the split point of the current range.
Reading past the end never fails: the data goes on with zero bytes, and `overrun` tells afterwards.
-/
namespace Vp8

/-- Where the range is cut: below lies `false`, whose probability is `prob / 256`. -/
def splitPoint (range : Nat) (prob : UInt8) : Nat := 1 + (range - 1) * prob.toNat / 256

def renormShift (range : Nat) : Nat := 7 - range.log2

structure BoolReader where
  data : ByteArray
  /-- Upcoming bits, the active byte on top. -/
  window : UInt64
  held : Nat
  range : Nat
  shifted : Nat

namespace BoolReader

/-- The data goes on with zero bytes beyond its end. -/
def byteAt (data : ByteArray) (i : Nat) : UInt8 := if h : i < data.size then data[i] else 0

def loadByte (r : BoolReader) : BoolReader :=
  let byte := byteAt r.data ((r.shifted + r.held) / 8)
  { r with
    window := r.window ||| byte.toUInt64 <<< (56 - r.held).toUInt64
    held := r.held + 8 }

def refill (r : BoolReader) : BoolReader := Nat.repeat loadByte ((64 - r.held) / 8) r

def ofBytes (data : ByteArray) : BoolReader :=
  refill { data, window := 0, held := 0, range := 255, shifted := 0 }

def settle (r : BoolReader) (range : Nat) (window : UInt64) : BoolReader :=
  let shift := renormShift range
  { r with
    range := range <<< shift
    window := window <<< shift.toUInt64
    held := r.held - shift
    shifted := r.shifted + shift }

def read (r : BoolReader) (prob : UInt8) : Bool × BoolReader :=
  let r := if r.held < 8 then r.refill else r
  let split := splitPoint r.range prob
  let bound := split.toUInt64 <<< 56
  if bound ≤ r.window then (true, r.settle (r.range - split) (r.window - bound))
  else (false, r.settle split r.window)

/-- More bits were used than the data holds. The last byte is look-ahead only, so reading into it
    counts as an overrun, and empty data is overrun from the start. -/
def overrun (r : BoolReader) : Bool := 8 * r.data.size < r.shifted + 8

end BoolReader

end Vp8
