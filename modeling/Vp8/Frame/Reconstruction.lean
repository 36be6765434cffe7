import Vp8.Prediction.Macroblock
import Vp8.Residual.Context
import Vp8.Residual.Transform

/-!
Reconstruction of a whole frame, macroblock by macroblock in raster order: the tokens of each one
are read, transformed and added to its prediction. The rows of macroblocks take turns in reading
from the token partitions.
-/
namespace Vp8

structure FrameSetup (rows cols : Nat) where
  sources : Sources rows cols
  factors : Vector Factors 4
  probs : CoefficientProbs

namespace Macroblock

/-- The residual of a macroblock, with the macroblock itself: where a whole-macroblock prediction
    turns out to have no tokens, it counts as skipped from now on. -/
def readResidual (m : Macroblock) (factors : Vector Factors 4) (probs : CoefficientProbs)
    (tokens : TokenContext cols) (c : Fin cols) :
    Coded ((Option Residual × Macroblock) × TokenContext cols) := do
  let hasSecond := m.mode.hasSecondOrder
  if m.skipped then return ((none, m), tokens.skip c hasSecond)
  else
    let ((coefficients, coded), tokens) ← tokens.read probs c hasSecond
    if coded then
      let f := factors.get (Fin.ofNat 4 m.segment)
      return ((some (coefficients.dequantize f hasSecond).residual, m), tokens)
    else return ((none, { m with skipped := hasSecond }), tokens)

end Macroblock

/-- What is predicted from damaged contents is damaged, and so is what has nothing to be predicted
    from. -/
def Picture.inheritDamage (p : Picture rows cols) (s : Sources rows cols) (reference : Reference) :
    Picture rows cols :=
  if reference = .current then p
  else { p with damaged := p.damaged || (s.picture? reference).elim true Picture.damaged }

structure Progress (rows cols partitions : Nat) where
  picture : Picture rows cols
  grid : Grid rows cols
  tokens : TokenContext cols
  readers : Vector BoolReader partitions

namespace Progress

variable {rows cols partitions : Nat}

/-- All partitions at their start, and a picture with nothing but the edges that intra prediction
    sees outside of it. -/
def start (target : Picture rows cols) (grid : Grid rows cols)
    (parts : Vector ByteArray partitions) : Progress rows cols partitions where
  picture := { target.setIntraEdges with damaged := false }
  grid := grid
  tokens := .blank cols
  readers := parts.map .ofBytes

def macroblock (setup : FrameSetup rows cols) (positive : 0 < partitions) (r : Fin rows)
    (p : Progress rows cols partitions) (c : Fin cols) :
    Except DecodeError (Progress rows cols partitions) := do
  let turn : Fin partitions := ⟨r % partitions, Nat.mod_lt _ positive⟩
  let m := p.grid.get r c
  let (((residual, m), tokens), reader) :=
    (m.readResidual setup.factors setup.probs p.tokens c).read (p.readers.get turn)
  let picture ← (p.picture.inheritDamage setup.sources m.reference).reconstruct setup.sources
    r c m residual
  return { picture, grid := p.grid.set r c m, tokens, readers := replaceAt p.readers turn reader }

/-- The next row. Its last line goes on to the right of the picture, where sub-blocks of the row
    below look. -/
def row (setup : FrameSetup rows cols) (positive : 0 < partitions)
    (p : Progress rows cols partitions) (r : Fin rows) :
    Except DecodeError (Progress rows cols partitions) := do
  let p ← (List.finRange cols).foldlM (macroblock setup positive r)
    { p with tokens := p.tokens.startRow }
  let luma := p.picture.luma.extendRowRight (16 * r + 15)
    (Plane.Encloses.covers (by unfold Plane.Encloses; omega))
  return { p with picture := { p.picture with luma } }

def overrun (p : Progress rows cols partitions) : Bool := p.readers.any BoolReader.overrun

def run (setup : FrameSetup rows cols) (target : Picture rows cols) (grid : Grid rows cols)
    (parts : Vector ByteArray partitions) (positive : 0 < partitions) :
    Except DecodeError (Progress rows cols partitions) :=
  (List.finRange rows).foldlM (row setup positive) (start target grid parts)

end Progress

structure Reconstruction (rows cols : Nat) where
  picture : Picture rows cols
  grid : Grid rows cols
  overrun : Bool

def reconstructFrame (setup : FrameSetup rows cols) (target : Picture rows cols)
    (grid : Grid rows cols) (parts : List ByteArray) :
    Except DecodeError (Reconstruction rows cols) :=
  if positive : 0 < parts.length then do
    let done ← Progress.run setup target grid ⟨parts.toArray, rfl⟩ positive
    return { picture := done.picture, grid := done.grid, overrun := done.overrun }
  else .error (.corruptFrame .noTokenPartition)

end Vp8
