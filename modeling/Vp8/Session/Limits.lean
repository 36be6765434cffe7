import Vp8.Error

/-!
Limits on the picture size that a session accepts.
-/
namespace Vp8

def largestSize : Nat := 16383

structure Limits where
  maxWidth : Nat
  maxHeight : Nat
  width_bounds : 0 < maxWidth ∧ maxWidth ≤ largestSize := by decide
  height_bounds : 0 < maxHeight ∧ maxHeight ≤ largestSize := by decide
  deriving DecidableEq

namespace Limits

def default : Limits where
  maxWidth := 4096
  maxHeight := 4096

def ofSizes (maxWidth maxHeight : Nat) : Except DecodeError Limits :=
  if w : 0 < maxWidth ∧ maxWidth ≤ largestSize then
    if h : 0 < maxHeight ∧ maxHeight ≤ largestSize then .ok ⟨maxWidth, maxHeight, w, h⟩
    else .error (.invalidParameter ⟨"max_height", largestSize, maxHeight⟩)
  else .error (.invalidParameter ⟨"max_width", largestSize, maxWidth⟩)

end Limits

end Vp8
