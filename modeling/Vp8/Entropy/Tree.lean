import Vp8.Entropy.Coded

/-!
Codes for small alphabets as flat binary trees. Entries come in pairs: pair `i` holds what follows
a `false` and, next to it, what follows a `true`. A positive entry is the index of another pair,
any other entry is minus the leaf it stands for, and pair `i` is decided by probability `i / 2`.

In the trees of the format every entry leads to a later pair, so a walk takes at most as many
decisions as there are entries. Entries of other arrays may lead back; a walk through one of these
ends where its reader first brings it to a leaf.
-/
namespace Vp8

structure CodeTree where
  entries : Array Int
  deriving DecidableEq, Repr

def probAt (probs : Array UInt8) (i : Nat) : UInt8 := probs[i]?.getD 0

namespace CodeTree

def entry (t : CodeTree) (i : Nat) (bit : Bool) : Int := t.entries[i + bit.toNat]?.getD 0

def leaf (entry : Int) : Nat := (-entry).toNat

/-- The leaf reached from pair `i`. A walk that is not done after `limit` decisions is broken off
    and yields leaf 0. -/
def readWithin (t : CodeTree) (probs : Array UInt8) : (limit : Nat) → (i : Nat) → Coded Nat
  | 0, _ => .value 0
  | limit + 1, i => .choice (probAt probs (i / 2)) fun bit =>
    let next := t.entry i bit
    if 0 < next then t.readWithin probs limit next.toNat else .value (leaf next)

/-- Pair `start` lies in the tree, every entry from there on leads to a later pair of the tree or to
    a leaf, and `n` probabilities are enough for all pairs. -/
abbrev Fits (t : CodeTree) (n start : Nat) : Prop :=
  start + 1 < t.entries.size ∧ t.entries.size ≤ 2 * n ∧
    ∀ k : Fin t.entries.size, start ≤ k.val → 0 < t.entries[k] →
      k.val < t.entries[k].toNat ∧ t.entries[k].toNat + 1 < t.entries.size

def read (t : CodeTree) (probs : Vector UInt8 n) (start : Nat) (_fits : t.Fits n start) :
    Coded Nat :=
  t.readWithin probs.toArray t.entries.size start

/-- A walk that has not ended after so many decisions never does. While there is data, at most 128
    decisions in a row use none of it, for each of them lowers the range. Behind the data the pair,
    the range and the active byte decide how the walk goes on, so it soon repeats itself. -/
def patience (t : CodeTree) (r : BoolReader) : Nat :=
  1024 * r.data.size + 32768 * t.entries.size

def walk (t : CodeTree) (probs : Array UInt8) (i : Nat) (r : BoolReader) : Nat × BoolReader :=
  (t.readWithin probs (t.patience r) i).read r

def pathWithin? (t : CodeTree) (value : Nat) :
    (limit : Nat) → (i : Nat) → Option (List (Nat × Bool))
  | 0, _ => none
  | limit + 1, i =>
    let branch (bit : Bool) : Option (List (Nat × Bool)) :=
      let next := t.entry i bit
      if 0 < next then (t.pathWithin? value limit next.toNat).map ((i, bit) :: ·)
      else if leaf next = value then some [(i, bit)] else none
    branch false <|> branch true

/-- The decisions that lead from pair `i` to a leaf, each with the pair it is taken at. Where a
    leaf occurs twice, the first in depth-first order wins. A path that meets no pair twice takes
    no more decisions than there are entries. -/
def path? (t : CodeTree) (value : Nat) (i : Nat) : Option (List (Nat × Bool)) :=
  t.pathWithin? value t.entries.size i

def choices (t : CodeTree) (probs : Array UInt8) (value : Nat) (i : Nat) : List Choice :=
  ((t.path? value i).getD []).map fun (pair, bit) => ⟨probAt probs (pair / 2), bit⟩

end CodeTree

end Vp8
