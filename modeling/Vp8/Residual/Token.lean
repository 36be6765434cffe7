import Vp8.Entropy.Tree
import Vp8.Probability.Coefficient
import Vp8.Residual.Block

/-!
Coefficient tokens. A block is coded position by position in zigzag order until its end; a zero is
never followed by the end of the block, so no end is tested for there.
-/
namespace Vp8

inductive Token where
  | literal (magnitude : Nat)
  | category (k : Fin 6)
  | endOfBlock
  deriving DecidableEq, Repr

namespace Token

def tree : CodeTree :=
  ⟨#[-11, 2, 0, 4, -1, 6, 8, 12, -2, 10, -3, -4, 14, 16, -5, -6, 18, 20, -7, -8, -9, -10]⟩

def nonzeroPair : Nat := 4

def ofLeaf (leaf : Nat) : Token :=
  if leaf < 5 then literal leaf else if h : leaf < 11 then category ⟨leaf - 5, by omega⟩
  else endOfBlock

def categoryBase : Vector Nat 6 := #v[5, 7, 11, 19, 35, 67]

def categoryProbs : Vector (List UInt8) 6 := #v[
  [159],
  [165, 145],
  [173, 148, 140],
  [176, 155, 140, 135],
  [180, 157, 141, 134, 130],
  [254, 254, 243, 230, 196, 177, 153, 140, 133, 130, 129]]

def readExtra (high : Nat) : List UInt8 → Coded Nat
  | [] => return high
  | prob :: probs => do
    let bit ← Coded.bool prob
    readExtra (2 * high + bit.toNat) probs

def readMagnitude : Token → Coded Nat
  | literal magnitude => return magnitude
  | category k => do return categoryBase.get k + (← readExtra 0 (categoryProbs.get k))
  | endOfBlock => return 0

def nextContext : Token → Fin 3
  | literal 1 => 1
  | endOfBlock => 0
  | _ => 2

def readSigned (t : Token) : Coded Int := do
  let magnitude ← t.readMagnitude
  if ← Coded.flag then return -(magnitude : Int) else return magnitude

/-- The band of each scan position, and of the end behind the last one, where a block may start as
    well but has no room for a token. -/
def bands : Vector (Fin 8) 17 := #v[0, 1, 2, 3, 6, 4, 5, 6, 6, 6, 6, 6, 6, 6, 6, 7, 0]

def probsAt (probs : BandProbs) (position : Fin 17) (context : Fin 3) : NodeProbs :=
  (probs.get (bands.get position)).get context

end Token

namespace Block

/-- The tokens of the last `left` scan positions; `mayEnd` tells whether the block can end here. -/
def readTokens (probs : BandProbs) :
    (left : Nat) → (mayEnd : Bool) → Fin 3 → Block → Coded Block
  | 0, _, _, block => return block
  | left + 1, mayEnd, context, block => do
    let position : Fin 16 := ⟨15 - left, by omega⟩
    let p := Token.probsAt probs position.castSucc context
    let more ← if mayEnd then Coded.bool (p.get 0) else pure true
    if !more then return block
    else if ← Coded.bool (p.get 1) then
      let token := Token.ofLeaf (← Token.tree.read p Token.nonzeroPair (by decide))
      let value ← token.readSigned
      let block := replaceAt block (Block.zigzag.get position) value
      readTokens probs left true token.nextContext block
    else readTokens probs left false 0 block

def read (probs : BandProbs) (context : Fin 3) (first : Fin 17) : Coded (Block × Bool) := do
  if ← Coded.bool ((Token.probsAt probs first context).get 0) then
    return (← readTokens probs (16 - first) false context .zero, true)
  else return (.zero, false)

end Block

end Vp8
