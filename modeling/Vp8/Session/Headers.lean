import Vp8.Frame.Partition
import Vp8.Frame.Preamble
import Vp8.Frame.Reconstruction
import Vp8.Image.Pool
import Vp8.Macroblock.Modes

/-!
All that a packet says before its first macroblock.
-/
namespace Vp8

structure Headers where
  tag : FrameTag
  header : FrameHeader
  carried : Carried
  partitions : List ByteArray
  /-- The first partition, read up to the first macroblock. -/
  reader : BoolReader

namespace Headers

/-- Read what comes behind the preamble. The reader of the first partition is given the whole rest
    of the packet: nothing keeps it from going on into the token partitions. -/
def read (packet : ByteArray) (preamble : Preamble) (carried : Carried) :
    Except DecodeError Headers := do
  let rest := packet.extract preamble.size packet.size
  let ((header, carried), reader) :=
    (FrameHeader.read preamble.tag.keyframe carried).read (.ofBytes rest)
  let header ← header
  let partitions ← Partition.split packet preamble.firstPartitionEnd header.partitions
  return { tag := preamble.tag, header, carried, partitions, reader }

def modeContext (h : Headers) : ModeContext where
  keyframe := h.tag.keyframe
  header := h.header
  segmentation := h.carried.segmentation
  entropy := h.carried.entropy

def interpolation (h : Headers) : Interpolation := if h.tag.bilinear then .bilinear else .sixTap

def setup (h : Headers) (pool : PicturePool rows cols) : FrameSetup rows cols where
  sources := {
    last := pool.reference? .last
    golden := pool.reference? .golden
    altref := pool.reference? .altref
    interpolation := h.interpolation
    fullPixel := h.tag.fullPixel }
  factors := Factors.ofSegments h.header.quantizer h.carried.segmentation
  probs := h.carried.entropy.coefficients

end Headers

end Vp8
