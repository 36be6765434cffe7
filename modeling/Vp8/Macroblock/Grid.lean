import Vp8.Macroblock.Mode
import Vp8.Macroblock.Split

/-!
Macroblocks and the grid they form. A macroblock beyond the edge of the grid counts as the default
one: intra predicted, with zero vectors and DC sub-blocks.
-/
namespace Vp8

structure Macroblock where
  mode : Mode
  chromaMode : Mode
  reference : Reference
  /-- The vector of the whole macroblock; of a split one, the vector of its last sub-block. -/
  vector : MotionVector
  segment : Nat
  /-- No residual is coded, or none was found in its tokens. -/
  skipped : Bool
  needsClamp : Bool
  split : Split
  subblockModes : Vector SubblockMode 16
  vectors : Vector MotionVector 16
  deriving DecidableEq, Repr

def Macroblock.default : Macroblock where
  mode := .dc
  chromaMode := .dc
  reference := .current
  vector := .zero
  segment := 0
  skipped := false
  needsClamp := false
  split := .topBottom
  subblockModes := .replicate 16 .dc
  vectors := .replicate 16 .zero

structure Grid (rows cols : Nat) where
  cells : Vector (Vector Macroblock cols) rows
  deriving DecidableEq

namespace Grid

def blank (rows cols : Nat) : Grid rows cols := ⟨.replicate rows (.replicate cols .default)⟩

def get (g : Grid rows cols) (r : Fin rows) (c : Fin cols) : Macroblock := (g.cells.get r).get c

def set (g : Grid rows cols) (r : Fin rows) (c : Fin cols) (m : Macroblock) : Grid rows cols :=
  ⟨replaceAt g.cells r (replaceAt (g.cells.get r) c m)⟩

def at? (g : Grid rows cols) (r c : Nat) : Option Macroblock :=
  if h : r < rows ∧ c < cols then some (g.get ⟨r, h.1⟩ ⟨c, h.2⟩) else none

def above (g : Grid rows cols) (r : Fin rows) (c : Fin cols) : Macroblock :=
  if _h : 0 < r.val then g.get ⟨r - 1, by omega⟩ c else .default

def left (g : Grid rows cols) (r : Fin rows) (c : Fin cols) : Macroblock :=
  if _h : 0 < c.val then g.get r ⟨c - 1, by omega⟩ else .default

def aboveLeft (g : Grid rows cols) (r : Fin rows) (c : Fin cols) : Macroblock :=
  if _h : 0 < r.val ∧ 0 < c.val then g.get ⟨r - 1, by omega⟩ ⟨c - 1, by omega⟩ else .default

end Grid

end Vp8
