import Vp8.Deblocking.Picture
import Vp8.Frame.Output
import Vp8.Image.Memory
import Vp8.Session.Headers
import Vp8.Session.Limits

/-!
What a session keeps for one picture size, and how a frame changes it.
-/
namespace Vp8

structure Stream where
  width : Nat
  height : Nat
  horizontalScale : Nat
  verticalScale : Nat
  pool : PicturePool (macroblocksFor height) (macroblocksFor width)
  grid : Grid (macroblocksFor height) (macroblocksFor width)

namespace Stream

def blank (size : KeyframeSize) : Stream where
  width := size.width
  height := size.height
  horizontalScale := size.horizontalScale
  verticalScale := size.verticalScale
  pool := .blank ..
  grid := .blank ..

def allocate (memory : Memory) (size : KeyframeSize) : Except DecodeError Stream := do
  memory.reserve (PicturePool.blocks (macroblocksFor size.height) (macroblocksFor size.width))
  return blank size

/-- The stream that a keyframe goes on with: the old one if it has the same size. -/
def configure (limits : Limits) (memory : Memory) (old : Option Stream) (size : KeyframeSize) :
    Except DecodeError Stream :=
  if limits.maxWidth < size.width ∨ limits.maxHeight < size.height then
    .error (.dimensionsTooLarge size.width size.height limits.maxWidth limits.maxHeight)
  else match old with
    | none => allocate memory size
    | some t =>
      if t.width = size.width ∧ t.height = size.height then
        .ok { t with
          horizontalScale := size.horizontalScale
          verticalScale := size.verticalScale }
      else allocate memory size

def markLastDamaged (t : Stream) : Stream := { t with pool := t.pool.markDamaged .last }

def finish (h : Headers) (picture : Picture rows cols) (grid : Grid rows cols) (overrun : Bool) :
    Picture rows cols :=
  let settings := FilterSettings.ofHeader h.header.filterLevel h.header.sharpness
    h.header.filterKind h.tag.keyframe
  let level := FilterLevel.ofMacroblock h.header.filterLevel h.carried.segmentation
    h.carried.adjustment
  let picture := (picture.deblock settings level grid).extend
  { picture with damaged := picture.damaged || overrun }

/-- Decode the macroblocks of a frame. A frame with too little data still replaces references,
    marked as damaged, unless it is a keyframe; the answer tells whether it had too little. -/
def decode (t : Stream) (h : Headers) : Stream × Except DecodeError Bool :=
  let (grid, reader) := (t.grid.readModes h.modeContext).read h.reader
  match t.pool.acquire with
  | .error e => ({ t with grid }, .error e)
  | .ok pool =>
    match reconstructFrame (h.setup pool) (pool.picture .current) grid h.partitions with
    | .error e => ({ t with grid, pool := pool.abandon }, .error e)
    | .ok done =>
      let overrun := done.overrun || reader.overrun
      if overrun && h.tag.keyframe then
        let pool := (pool.setPicture .current done.picture).abandon
        ({ t with grid := done.grid, pool }, .error (.corruptFrame .keyframeEndsEarly))
      else
        let picture := finish h done.picture done.grid overrun
        let pool := (pool.setPicture .current picture).commit h.header.references
        ({ t with grid := done.grid, pool }, .ok overrun)

def frame (t : Stream) (tag : FrameTag) : Frame where
  width := t.width
  height := t.height
  horizontalScale := t.horizontalScale
  verticalScale := t.verticalScale
  picture := t.pool.shownPicture
  keyframe := tag.keyframe
  shown := tag.shown

end Stream

end Vp8
