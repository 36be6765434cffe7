import Vp8.Error
import Vp8.Probability.Tables
import Vp8.Frame.Segmentation
import Vp8.Frame.FilterAdjustment

/-!
The compressed frame header at the start of the first partition. Reading it yields the values of
the frame and a new state of what the stream carries from header to header; that state is there
also when the header turns out to be invalid half-way.
-/
namespace Vp8

inductive FilterKind where
  | normal
  | simple
  deriving DecidableEq, Repr

structure QuantizerIndices where
  base : Int
  lumaDc : Int
  secondDc : Int
  secondAc : Int
  chromaDc : Int
  chromaAc : Int
  deriving DecidableEq, Repr

inductive ReferenceCopy where
  | keep
  | last
  /-- Altref for golden, golden for altref. -/
  | other
  deriving DecidableEq, Repr

structure ReferenceUpdate where
  refreshLast : Bool
  refreshGolden : Bool
  refreshAltref : Bool
  copyToGolden : ReferenceCopy
  copyToAltref : ReferenceCopy
  deriving DecidableEq, Repr

structure SignBias where
  golden : Bool
  altref : Bool
  deriving DecidableEq, Repr

structure FrameHeader where
  colourSpace : Nat
  clampingType : Nat
  filterKind : FilterKind
  filterLevel : Nat
  sharpness : Nat
  partitions : Nat
  quantizer : QuantizerIndices
  references : ReferenceUpdate
  signBias : SignBias
  refreshEntropy : Bool
  /-- Probability that a macroblock has coefficients, where macroblocks tell. -/
  skipProb : Option UInt8
  intraProb : UInt8
  lastProb : UInt8
  goldenProb : UInt8
  deriving DecidableEq, Repr

/-- What a stream carries from header to header. -/
structure Carried where
  segmentation : Segmentation
  adjustment : FilterAdjustment
  entropy : EntropyTables
  deriving DecidableEq

def Carried.default : Carried := ⟨.default, .default, .default⟩

namespace QuantizerIndices

def read : Coded QuantizerIndices := do
  let base ← Coded.literal 7
  let lumaDc ← Coded.optionalSigned 4
  let secondDc ← Coded.optionalSigned 4
  let secondAc ← Coded.optionalSigned 4
  let chromaDc ← Coded.optionalSigned 4
  let chromaAc ← Coded.optionalSigned 4
  return { base, lumaDc, secondDc, secondAc, chromaDc, chromaAc }

end QuantizerIndices

def ReferenceCopy.ofCode? : Nat → Option ReferenceCopy
  | 0 => some .keep
  | 1 => some .last
  | 2 => some .other
  | _ => none

/-- A refreshed reference needs no copy, so none is coded for it. -/
def ReferenceCopy.read? (refreshed : Bool) : Coded (Option ReferenceCopy) := do
  if refreshed then return some .keep else return ofCode? (← Coded.literal 2)

/-- The references that a frame replaces, all but last; an invalid copy stops the reading. -/
def ReferenceUpdate.readLongTerm? : Coded (Option ReferenceUpdate) := do
  let refreshGolden ← Coded.flag
  let refreshAltref ← Coded.flag
  match ← ReferenceCopy.read? refreshGolden with
  | none => return none
  | some copyToGolden =>
    match ← ReferenceCopy.read? refreshAltref with
    | none => return none
    | some copyToAltref =>
      return some { refreshLast := false, refreshGolden, refreshAltref, copyToGolden, copyToAltref }

def ReferenceUpdate.all : ReferenceUpdate where
  refreshLast := true
  refreshGolden := true
  refreshAltref := true
  copyToGolden := .keep
  copyToAltref := .keep

def SignBias.none : SignBias := ⟨false, false⟩

def SignBias.read : Coded SignBias := do
  let golden ← Coded.flag
  let altref ← Coded.flag
  return ⟨golden, altref⟩

namespace FrameHeader

def readReferences? (keyframe : Bool) : Coded (Option (ReferenceUpdate × SignBias)) := do
  if keyframe then return some (.all, .none)
  else
    match ← ReferenceUpdate.readLongTerm? with
    | none => return none
    | some update => return some (update, ← SignBias.read)

structure Start where
  colourSpace : Nat
  clampingType : Nat
  filterKind : FilterKind
  filterLevel : Nat
  sharpness : Nat
  partitions : Nat
  quantizer : QuantizerIndices

def readStart (keyframe : Bool) (c : Carried) : Coded (Start × Carried) := do
  let colourSpace ← if keyframe then Coded.literal 1 else pure 0
  let clampingType ← if keyframe then Coded.literal 1 else pure 0
  let segmentation ← c.segmentation.read
  let simple ← Coded.flag
  let filterLevel ← Coded.literal 6
  let sharpness ← Coded.literal 3
  let adjustment ← c.adjustment.read
  let log2Partitions ← Coded.literal 2
  let quantizer ← QuantizerIndices.read
  let start := {
    colourSpace, clampingType, filterLevel, sharpness, quantizer
    filterKind := if simple then .simple else .normal
    partitions := 1 <<< log2Partitions }
  return (start, { c with segmentation, adjustment })

def readSkipProb : Coded (Option UInt8) := do
  if ← Coded.flag then return some (← Coded.byte) else return none

def readRest (keyframe : Bool) (start : Start) (references : ReferenceUpdate) (signBias : SignBias)
    (entropy : EntropyTables) : Coded (FrameHeader × EntropyTables) := do
  let refreshEntropy ← Coded.flag
  let refreshLast ← if keyframe then pure true else Coded.flag
  let entropy ← entropy.readCoefficientUpdates
  let skipProb ← readSkipProb
  let header : FrameHeader := {
    colourSpace := start.colourSpace
    clampingType := start.clampingType
    filterKind := start.filterKind
    filterLevel := start.filterLevel
    sharpness := start.sharpness
    partitions := start.partitions
    quantizer := start.quantizer
    references := { references with refreshLast }
    intraProb := 0, lastProb := 0, goldenProb := 0
    signBias, refreshEntropy, skipProb }
  if keyframe then return (header, entropy)
  else
    let intraProb ← Coded.byte
    let lastProb ← Coded.byte
    let goldenProb ← Coded.byte
    let entropy ← entropy.readModeUpdates
    let entropy ← entropy.readVectorUpdates
    return ({ header with intraProb, lastProb, goldenProb }, entropy)

/-- Read a header. The caller starts keyframes from `Carried.default`. -/
def read (keyframe : Bool) (c : Carried) :
    Coded (Except DecodeError FrameHeader × Carried) := do
  let (start, c) ← readStart keyframe c
  match ← readReferences? keyframe with
  | none => return (.error (.corruptFrame .referenceCopy), c)
  | some (references, signBias) =>
    let (header, entropy) ← readRest keyframe start references signBias c.entropy
    return (.ok header, { c with entropy })

end FrameHeader

end Vp8
