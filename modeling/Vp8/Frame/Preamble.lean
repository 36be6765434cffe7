import Vp8.Error

/-!
The uncompressed start of a packet: a three-byte tag and, on keyframes, a start code and the
picture size.
-/
namespace Vp8

def tagSize : Nat := 3

def keyframePreambleSize : Nat := 10

def word16 (data : ByteArray) (i : Nat) (inside : i + 2 ≤ data.size) : Nat :=
  data[i].toNat + 256 * data[i + 1].toNat

def word24 (data : ByteArray) (i : Nat) (inside : i + 3 ≤ data.size) : Nat :=
  data[i].toNat + 256 * data[i + 1].toNat + 65536 * data[i + 2].toNat

structure FrameTag where
  keyframe : Bool
  version : Nat
  shown : Bool
  firstPartitionSize : Nat
  deriving DecidableEq, Repr

namespace FrameTag

/-- From the low bit up: one bit that is clear on keyframes, three of version, one that is set on
    frames meant for display, and nineteen of size. -/
def ofWord (word : Nat) : FrameTag where
  keyframe := word % 2 == 0
  version := word / 2 % 8
  shown := word / 16 % 2 == 1
  firstPartitionSize := word / 32

def parse (data : ByteArray) : Except DecodeError FrameTag :=
  if long : 3 ≤ data.size then .ok (ofWord (word24 data 0 long))
  else .error (.corruptFrame .truncatedPacket)

def bilinear (tag : FrameTag) : Bool := tag.version != 0

def fullPixel (tag : FrameTag) : Bool := tag.version == 3

end FrameTag

structure KeyframeSize where
  width : Nat
  height : Nat
  horizontalScale : Nat
  verticalScale : Nat
  deriving DecidableEq, Repr

def KeyframeSize.ofWords (w h : Nat) : KeyframeSize where
  width := w % 16384
  height := h % 16384
  horizontalScale := w / 16384
  verticalScale := h / 16384

structure Preamble where
  tag : FrameTag
  /-- Present exactly on keyframes. -/
  keyframeSize : Option KeyframeSize
  size : Nat
  deriving DecidableEq, Repr

namespace Preamble

def parseKeyframe (tag : FrameTag) (data : ByteArray) : Except DecodeError Preamble :=
  if long : 10 ≤ data.size then
    if data[3] = 0x9d ∧ data[4] = 0x01 ∧ data[5] = 0x2a then
      let size := KeyframeSize.ofWords (word16 data 6 (by omega)) (word16 data 8 (by omega))
      if size.width = 0 ∨ size.height = 0 then
        .error (.invalidDimensions size.width size.height)
      else .ok { tag, keyframeSize := some size, size := keyframePreambleSize }
    else .error (.unsupportedFeature .startCode)
  else .error (.corruptFrame .truncatedKeyframeHeader)

/-- The size of the first partition is measured from behind the tag, on keyframes too. -/
def parse (data : ByteArray) : Except DecodeError Preamble := do
  let tag ← FrameTag.parse data
  if 3 < tag.version then throw (.unsupportedFeature (.version tag.version))
  if data.size - tagSize < tag.firstPartitionSize then
    throw (.corruptFrame .truncatedFirstPartition)
  if tag.keyframe then parseKeyframe tag data
  else return { tag, keyframeSize := none, size := tagSize }

def firstPartitionEnd (p : Preamble) : Nat := p.size + p.tag.firstPartitionSize

end Preamble

end Vp8
