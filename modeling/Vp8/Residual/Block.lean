import Vp8.Table

/-!
Blocks of sixteen numbers in raster order, and the blocks of a macroblock: sixteen of luma, four of
each chroma plane and, unless prediction goes by sub-blocks, a second-order block with the DC values
of the luma blocks.
-/
namespace Vp8

abbrev Block := Vector Int 16

namespace Block

def zero : Block := .replicate 16 0

def isZero (b : Block) : Bool := b.all (· == 0)

def position (y x : Fin 4) : Fin 16 := ⟨4 * y + x, by omega⟩

def zigzag : Vector (Fin 16) 16 := #v[0, 1, 4, 8, 5, 2, 3, 6, 9, 12, 13, 10, 7, 11, 14, 15]

end Block

abbrev BlockGrid (n : Nat) := Vector (Vector Block n) n

namespace BlockGrid

def zero (n : Nat) : BlockGrid n := .replicate n (.replicate n .zero)

def set (g : BlockGrid n) (y x : Fin n) (b : Block) : BlockGrid n :=
  replaceAt g y (replaceAt (g.get y) x b)

def map (f : Block → Block) (g : BlockGrid n) : BlockGrid n := Vector.map (Vector.map f) g

end BlockGrid

structure Coefficients where
  second : Block
  luma : BlockGrid 4
  cb : BlockGrid 2
  cr : BlockGrid 2
  deriving DecidableEq

def Coefficients.zero : Coefficients := ⟨.zero, .zero 4, .zero 2, .zero 2⟩

structure Residual where
  luma : BlockGrid 4
  cb : BlockGrid 2
  cr : BlockGrid 2
  deriving DecidableEq

end Vp8
