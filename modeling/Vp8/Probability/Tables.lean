import Vp8.Entropy.Coded
import Vp8.Probability.Coefficient
import Vp8.Probability.Vector

/-!
The probability tables that a stream carries from frame to frame, and how a frame header
replaces their entries. A keyframe starts again from `EntropyTables.default`.
-/
namespace Vp8

structure EntropyTables where
  coefficients : CoefficientProbs
  lumaModes : Vector UInt8 4
  chromaModes : Vector UInt8 3
  vectors : VectorProbs
  deriving DecidableEq

namespace EntropyTables

def default : EntropyTables where
  coefficients := .default
  lumaModes := #v[112, 86, 140, 37]
  chromaModes := #v[162, 101, 204]
  vectors := .default

def readCoefficientUpdates (t : EntropyTables) : Coded EntropyTables := do
  let coefficients ← readEach t.coefficients fun i bands =>
    readEach bands fun j contexts =>
      readEach contexts fun k nodes =>
        readEach nodes fun l prob => do
          let unchanged := ((CoefficientProbs.unchanged.get i).get j).get k
          if ← Coded.bool (unchanged.get l) then Coded.byte else return prob
  return { t with coefficients }

def readModeTable (probs : Vector UInt8 n) : Coded (Vector UInt8 n) := do
  if ← Coded.flag then readEach probs fun _ _ => Coded.byte else return probs

def readModeUpdates (t : EntropyTables) : Coded EntropyTables := do
  let lumaModes ← readModeTable t.lumaModes
  let chromaModes ← readModeTable t.chromaModes
  return { t with lumaModes, chromaModes }

/-- Vector probabilities are coded in seven bits without their low bit; a coded zero means one. -/
def readComponentUpdates (unchanged probs : ComponentProbs) : Coded ComponentProbs :=
  readEach probs fun i prob => do
    if ← Coded.bool (unchanged.get i) then
      let x ← Coded.literal 7
      return if x = 0 then 1 else (2 * x).toUInt8
    else return prob

def readVectorUpdates (t : EntropyTables) : Coded EntropyTables := do
  let row ← readComponentUpdates VectorProbs.unchanged.row t.vectors.row
  let col ← readComponentUpdates VectorProbs.unchanged.col t.vectors.col
  return { t with vectors := ⟨row, col⟩ }

end EntropyTables

end Vp8
