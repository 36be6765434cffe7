import Vp8.Entropy.Coded

/-!
Segments: up to four classes of macroblocks, each with a quantizer and a filter level of its own.
All of it is carried from frame to frame until a header replaces it.
-/
namespace Vp8

structure Segmentation where
  enabled : Bool
  updateMap : Bool
  updateData : Bool
  /-- Segment values stand for themselves instead of adjusting those of the frame. -/
  absolute : Bool
  quantizer : Vector Int 4
  filterLevel : Vector Int 4
  treeProbs : Vector UInt8 3
  deriving DecidableEq

namespace Segmentation

def default : Segmentation where
  enabled := false
  updateMap := false
  updateData := false
  absolute := false
  quantizer := .replicate 4 0
  filterLevel := .replicate 4 0
  treeProbs := .replicate 3 255

def readData (s : Segmentation) : Coded Segmentation := do
  let absolute ← Coded.flag
  let quantizer ← readEach s.quantizer fun _ _ => Coded.optionalSigned 7
  let filterLevel ← readEach s.filterLevel fun _ _ => Coded.optionalSigned 6
  return { s with absolute, quantizer, filterLevel }

/-- A probability that is not coded is certainty of `false`. -/
def readTreeProbs (s : Segmentation) : Coded Segmentation := do
  let treeProbs ← readEach s.treeProbs fun _ _ => do
    if ← Coded.flag then Coded.byte else return 255
  return { s with treeProbs }

def read (s : Segmentation) : Coded Segmentation := do
  if ← Coded.flag then
    let updateMap ← Coded.flag
    let updateData ← Coded.flag
    let s := { s with enabled := true, updateMap, updateData }
    let s ← if updateData then s.readData else pure s
    if updateMap then s.readTreeProbs else return s
  else return { s with enabled := false, updateMap := false, updateData := false }

def adjust (s : Segmentation) (value own : Int) : Int :=
  if !s.enabled then value else if s.absolute then own else value + own

end Segmentation

end Vp8
