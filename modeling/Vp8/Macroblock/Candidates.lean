import Vp8.Macroblock.Grid
import Vp8.Frame.Header

/-!
Vector candidates. The neighbours above, to the left and above left lend their vectors, with weights
two, two and one; the two heaviest of these vectors are candidates, and the weights choose the
probabilities of the inter modes.
-/
namespace Vp8

def SignBias.of (s : SignBias) : Reference → Bool
  | .golden => s.golden
  | .altref => s.altref
  | _ => false

structure Candidates where
  /-- The nearest vector if it weighs at least as much as the zero vector, else zero. -/
  best : MotionVector
  nearest : MotionVector
  near : MotionVector
  zeroWeight : Nat
  nearestWeight : Nat
  nearWeight : Nat
  splitWeight : Nat
  deriving DecidableEq, Repr

namespace Candidates

/-- Weights found so far: of the zero vector, and of other vectors, the latest one first. -/
structure Tally where
  zero : Nat
  found : List (MotionVector × Nat)

def Tally.add (t : Tally) (v : MotionVector) (weight : Nat) : Tally :=
  if v.isZero then { t with zero := t.zero + weight }
  else match t.found with
    | [] => { t with found := [(v, weight)] }
    | (w, total) :: rest =>
      if v = w then { t with found := (w, total + weight) :: rest }
      else { t with found := (v, weight) :: t.found }

def lend (bias : SignBias) (reference : Reference) (m : Macroblock) : MotionVector :=
  if bias.of m.reference = bias.of reference then m.vector else m.vector.neg

def Tally.addNeighbour (bias : SignBias) (reference : Reference) (t : Tally)
    (neighbour : Macroblock × Nat) : Tally :=
  let (m, weight) := neighbour
  if m.reference = .current then t else t.add (lend bias reference m) weight

/-- The heavier vector comes first; of equal ones, the first found. A third vector only counts
    where it equals the first. -/
def Tally.ranked (t : Tally) : (MotionVector × Nat) × (MotionVector × Nat) :=
  let none := (MotionVector.zero, 0)
  let (first, second) := match t.found with
    | [] => (none, none)
    | [a] => (a, none)
    | [b, a] => (a, b)
    | c :: b :: a :: _ => (if c.1 = a.1 then (a.1, a.2 + c.2) else a, b)
  if first.2 < second.2 then (second, first) else (first, second)

def weightOfSplits (neighbours : List (Macroblock × Nat)) : Nat :=
  neighbours.foldr (fun (m, weight) sum => if m.mode = .split then weight + sum else sum) 0

def search (bias : SignBias) (reference : Reference) (neighbours : List (Macroblock × Nat)) :
    Candidates :=
  let tally := neighbours.foldl (Tally.addNeighbour bias reference) ⟨0, []⟩
  let (first, second) := tally.ranked
  { best := if tally.zero ≤ first.2 then first.1 else .zero
    nearest := first.1
    near := second.1
    zeroWeight := tally.zero
    nearestWeight := first.2
    nearWeight := second.2
    splitWeight := weightOfSplits neighbours }

def neighbours (g : Grid rows cols) (r : Fin rows) (c : Fin cols) : List (Macroblock × Nat) :=
  [(g.above r c, 2), (g.left r c, 2), (g.aboveLeft r c, 1)]

def modeContexts : Vector (Vector UInt8 4) 6 := #v[
  #v[7, 1, 1, 143],
  #v[14, 18, 14, 107],
  #v[135, 64, 57, 68],
  #v[60, 56, 128, 65],
  #v[159, 134, 128, 34],
  #v[234, 188, 128, 28]]

def contextOf (weight : Nat) : Vector UInt8 4 := modeContexts[min weight 5]

def modeProbs (c : Candidates) : Vector UInt8 4 :=
  #v[(contextOf c.zeroWeight).get 0, (contextOf c.nearestWeight).get 1,
    (contextOf c.nearWeight).get 2, (contextOf c.splitWeight).get 3]

end Candidates

end Vp8
