import Vp8.Entropy.Reader

/-!
The boolean arithmetic writer, which produces what `BoolReader` reads. It keeps the low end of the
current interval in a register and puts out a byte as soon as all of its bits are there. What is
added later may still carry into the bytes that went out.
-/
namespace Vp8

/-- One coded boolean: its value, and the probability of `false` it is coded against. -/
structure Choice where
  prob : UInt8
  bit : Bool
  deriving DecidableEq, Repr

structure BoolWriter where
  /-- The bytes put out so far, the latest one first. -/
  output : List UInt8
  /-- Low end of the interval below the bytes put out, with room for a carry on top. -/
  low : Nat
  range : Nat
  due : Nat
  deriving DecidableEq, Repr

namespace BoolWriter

def empty : BoolWriter := ⟨[], 0, 255, 24⟩

def carry : List UInt8 → List UInt8
  | [] => []
  | byte :: rest => if byte = 255 then 0 :: carry rest else (byte + 1) :: rest

def settle (w : BoolWriter) (low range : Nat) : BoolWriter :=
  let shift := renormShift range
  if shift < w.due then
    { w with low := low <<< shift, range := range <<< shift, due := w.due - shift }
  else
    let top := low <<< w.due
    let output := if top.testBit 32 then carry w.output else w.output
    { output := (top >>> 24).toUInt8 :: output
      low := (top % 16777216) <<< (shift - w.due)
      range := range <<< shift
      due := 8 - (shift - w.due) }

def put (w : BoolWriter) (c : Choice) : BoolWriter :=
  let split := splitPoint w.range c.prob
  if c.bit then w.settle (w.low + split) (w.range - split) else w.settle w.low split

def putAll (w : BoolWriter) (cs : List Choice) : BoolWriter := cs.foldl put w

/-- Thirty-two even choices push the last interval out. -/
def flush : List Choice := List.replicate 32 ⟨128, false⟩

def finish (w : BoolWriter) : ByteArray := ⟨(w.putAll flush).output.reverse.toArray⟩

end BoolWriter

def encodeChoices (cs : List Choice) : ByteArray := (BoolWriter.empty.putAll cs).finish

namespace Choice

def flag (bit : Bool) : Choice := ⟨128, bit⟩

def literal (value : Nat) : Nat → List Choice
  | 0 => []
  | width + 1 => flag (value.testBit width) :: literal value width

def signed (value : Int) (width : Nat) : List Choice :=
  literal value.natAbs width ++ [flag (decide (value < 0))]

def optionalSigned (value : Int) (width : Nat) : List Choice :=
  if value = 0 then [flag false] else flag true :: signed value width

end Choice

end Vp8
