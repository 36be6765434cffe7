import Vp8.Entropy.Tree
import Vp8.Probability.Vector

/-!
Motion vectors and their code. A vector is kept in eighths of a pixel of the plane it is used on:
luma vectors are coded in quarters and doubled when they are read.
-/
namespace Vp8

structure MotionVector where
  row : Int16
  col : Int16
  deriving DecidableEq, Repr

namespace MotionVector

def zero : MotionVector := ⟨0, 0⟩

def isZero (v : MotionVector) : Bool := v == zero

def ofInts (row col : Int) : MotionVector := ⟨.ofInt row, .ofInt col⟩

def neg (v : MotionVector) : MotionVector := ⟨-v.row, -v.col⟩

def add (v w : MotionVector) : MotionVector := ⟨v.row + w.row, v.col + w.col⟩

def shortTree : CodeTree := ⟨#[2, 8, 4, 6, 0, -1, -2, -3, 10, 12, -4, -5, -6, -7]⟩

def readBits (probs : ComponentProbs) : List (Fin 10) → Coded Nat
  | [] => return 0
  | k :: ks => do
    let bit ← Coded.bool probs[9 + k.val]
    let rest ← readBits probs ks
    return bit.toNat <<< k.val + rest

/-- A long magnitude has its three low bits first, then those from the ninth down. Its bit 3 comes
    last, and only where a higher bit is set: a long magnitude is at least 8. -/
def readLong (probs : ComponentProbs) : Coded Nat := do
  let x ← readBits probs [0, 1, 2, 9, 8, 7, 6, 5, 4]
  if x < 16 then return x + 8
  else
    let bit ← Coded.bool (probs.get 12)
    return x + 8 * bit.toNat

def readMagnitude (probs : ComponentProbs) : Coded Nat := do
  if ← Coded.bool (probs.get 0) then readLong probs
  else shortTree.read (probs.extract 2 9) 0 (by decide)

def readComponent (probs : ComponentProbs) : Coded Int := do
  let x ← readMagnitude probs
  if x = 0 then return 0
  else if ← Coded.bool (probs.get 1) then return -(x : Int) else return x

def read (probs : VectorProbs) : Coded MotionVector := do
  let row ← readComponent probs.row
  let col ← readComponent probs.col
  return ofInts (2 * row) (2 * col)

end MotionVector

end Vp8
