import Vp8.Image.Picture

/-!
Decoded frames as the caller gets them. Pictures are made of whole macroblocks; what is meant to be
seen of them is the part in the upper left that has the size of the stream.
-/
namespace Vp8

def macroblocksFor (pixels : Nat) : Nat := (pixels + 15) / 16

structure Frame where
  width : Nat
  height : Nat
  horizontalScale : Nat
  verticalScale : Nat
  picture : Picture (macroblocksFor height) (macroblocksFor width)
  keyframe : Bool
  shown : Bool

namespace Frame

def damaged (f : Frame) : Bool := f.picture.damaged

def flagBits (f : Frame) : Nat := f.keyframe.toNat + 2 * f.shown.toNat + 4 * f.damaged.toNat

/-- The visible part of the three planes, one behind the other. Chroma planes have half the size,
    rounded up. -/
def toI420 (f : Frame) : ByteArray :=
  let w := (f.width + 1) / 2
  let h := (f.height + 1) / 2
  f.picture.luma.crop f.width f.height ++ f.picture.cb.crop w h ++ f.picture.cr.crop w h

end Frame

end Vp8
