/-!
Why a packet is refused. Every cause is a constructor; its wording lives in `message` alone, and
`isRecoverable` and `requiresKeyframe` say what a caller has to do next.
-/
namespace Vp8

inductive Damage where
  | truncatedPacket
  | truncatedFirstPartition
  | truncatedKeyframeHeader
  | truncatedPartitionSizes
  | partitionLength (number : Nat)
  | referenceCopy
  | noFreeBuffer
  | noTokenPartition
  | missingReference
  | frameEndsEarly
  | keyframeEndsEarly
  deriving DecidableEq, Repr

def Damage.reason : Damage → String
  | .truncatedPacket => "truncated packet"
  | .truncatedFirstPartition => "truncated packet or corrupt partition 0 length"
  | .truncatedKeyframeHeader => "truncated keyframe header"
  | .truncatedPartitionSizes => "truncated partition size data"
  | .partitionLength number => s!"truncated packet or corrupt partition {number} length"
  | .referenceCopy => "invalid reference buffer copy"
  | .noFreeBuffer => "no free frame buffer"
  | .noTokenPartition => "no token partitions"
  | .missingReference => "inter macroblock without reference"
  | .frameEndsEarly => "frame data ends early"
  | .keyframeEndsEarly => "keyframe data ends early"

inductive Feature where
  | version (number : Nat)
  | startCode
  deriving DecidableEq, Repr

def Feature.description : Feature → String
  | .version number => s!"bitstream version {number}"
  | .startCode => "invalid keyframe start code"

structure BadLimit where
  name : String
  largest : Nat
  got : Nat
  deriving DecidableEq, Repr

inductive DecodeError where
  | corruptFrame (damage : Damage)
  | corruptKeyframe (damage : Damage)
  | missingKeyframe
  | unsupportedFeature (feature : Feature)
  | invalidParameter (limit : BadLimit)
  | invalidDimensions (width height : Nat)
  | dimensionsTooLarge (width height maxWidth maxHeight : Nat)
  | allocationFailed (bytes : Nat)
  deriving DecidableEq, Repr

namespace DecodeError

def message : DecodeError → String
  | corruptFrame damage => "Corrupt VP8 frame: " ++ damage.reason
  | corruptKeyframe damage => "Corrupt VP8 keyframe: " ++ damage.reason
  | missingKeyframe => "No valid keyframe available for inter frame"
  | unsupportedFeature feature => "Unsupported VP8 feature: " ++ feature.description
  | invalidParameter limit =>
    s!"Invalid parameter: {limit.name} must be in 1..={limit.largest}, got {limit.got}"
  | invalidDimensions width height => s!"Invalid dimensions: {width}x{height}"
  | dimensionsTooLarge width height maxWidth maxHeight =>
    s!"Dimensions {width}x{height} exceed maximum {maxWidth}x{maxHeight}"
  | allocationFailed bytes => s!"Failed to allocate {bytes} bytes for frame buffers"

def isRecoverable : DecodeError → Bool
  | corruptFrame _ => true
  | _ => false

def requiresKeyframe : DecodeError → Bool
  | corruptFrame _ => false
  | invalidParameter _ => false
  | _ => true

/-- Damage in a keyframe breaks every later frame, so it is reported as such. -/
def ofKeyframe : DecodeError → DecodeError
  | corruptFrame damage => corruptKeyframe damage
  | other => other

end DecodeError

end Vp8
