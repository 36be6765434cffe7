import Vp8.Entropy.Coded

/-!
Adjustments of the loop filter level by reference and by mode, carried from frame to frame.
-/
namespace Vp8

structure FilterAdjustment where
  enabled : Bool
  /-- By reference: current, last, golden, altref. -/
  byReference : Vector Int 4
  /-- By mode: sub-block prediction, zero vector, other vectors, split vectors. -/
  byMode : Vector Int 4
  deriving DecidableEq

namespace FilterAdjustment

def default : FilterAdjustment where
  enabled := false
  byReference := .replicate 4 0
  byMode := .replicate 4 0

def readDeltas (deltas : Vector Int 4) : Coded (Vector Int 4) :=
  readEach deltas fun _ delta => do
    if ← Coded.flag then Coded.signed 6 else return delta

def read (a : FilterAdjustment) : Coded FilterAdjustment := do
  if ← Coded.flag then
    if ← Coded.flag then
      let byReference ← readDeltas a.byReference
      let byMode ← readDeltas a.byMode
      return { enabled := true, byReference, byMode }
    else return { a with enabled := true }
  else return { a with enabled := false }

end FilterAdjustment

end Vp8
