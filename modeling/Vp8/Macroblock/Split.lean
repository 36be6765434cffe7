import Vp8.Macroblock.MotionVector

/-!
Splits: the four ways to cut the sixteen sub-blocks of a macroblock into parts that share a vector,
and the code of the vector of a part, which depends on the vectors to its left and above it.
-/
namespace Vp8

inductive Split where
  | topBottom
  | leftRight
  | quarters
  | sixteenths
  deriving DecidableEq, Repr

namespace Split

def index : Split → Fin 4
  | topBottom => 0
  | leftRight => 1
  | quarters => 2
  | sixteenths => 3

def ofLeaf : Nat → Split
  | 0 => topBottom
  | 1 => leftRight
  | 2 => quarters
  | _ => sixteenths

/-- The part of every sub-block, by split. -/
def partTable : Vector (Vector Nat 16) 4 := #v[
  #v[0, 0, 0, 0, 0, 0, 0, 0, 1, 1, 1, 1, 1, 1, 1, 1],
  #v[0, 0, 1, 1, 0, 0, 1, 1, 0, 0, 1, 1, 0, 0, 1, 1],
  #v[0, 0, 1, 1, 0, 0, 1, 1, 2, 2, 3, 3, 2, 2, 3, 3],
  #v[0, 1, 2, 3, 4, 5, 6, 7, 8, 9, 10, 11, 12, 13, 14, 15]]

def countTable : Vector Nat 4 := #v[2, 2, 4, 16]

def parts (s : Split) : Vector Nat 16 := partTable.get s.index

def count (s : Split) : Nat := countTable.get s.index

def subblocks : List (Fin 16) := List.finRange 16

def first (s : Split) (part : Nat) : Fin 16 :=
  (subblocks.find? fun k => s.parts.get k == part).getD 0

def tree : CodeTree := ⟨#[-3, 2, -2, 4, 0, -1]⟩

def probs : Vector UInt8 3 := #v[110, 111, 150]

end Split

inductive PartVector where
  | left
  | above
  | zero
  | new
  deriving DecidableEq, Repr

namespace PartVector

def ofLeaf : Nat → PartVector
  | 0 => left
  | 1 => above
  | 2 => zero
  | _ => new

def tree : CodeTree := ⟨#[0, 2, -1, 4, -2, -3]⟩

def probTable : Vector (Vector UInt8 3) 5 := #v[
  #v[147, 136, 18],
  #v[106, 145, 1],
  #v[179, 121, 1],
  #v[223, 1, 34],
  #v[208, 1, 1]]

def context (left above : MotionVector) : Fin 5 :=
  if left = above then if left.isZero then 4 else 3
  else if above.isZero then 2
  else if left.isZero then 1
  else 0

end PartVector

end Vp8
