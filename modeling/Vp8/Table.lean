/-!
Tables of fixed size. Their indices are in range by type, so reading with `Vector.get` and writing
with `replaceAt` never needs a bound to be shown.
-/
namespace Vp8

@[inline] def replaceAt (xs : Vector α n) (i : Fin n) (a : α) : Vector α n := xs.set i a

/-! Numerals stand for indices into tables of these sizes. -/

instance indices3 : @NeZero Nat Zero.ofOfNat0 3 := ⟨by decide⟩
instance indices4 : @NeZero Nat Zero.ofOfNat0 4 := ⟨by decide⟩
instance indices5 : @NeZero Nat Zero.ofOfNat0 5 := ⟨by decide⟩
instance indices8 : @NeZero Nat Zero.ofOfNat0 8 := ⟨by decide⟩
instance indices10 : @NeZero Nat Zero.ofOfNat0 10 := ⟨by decide⟩
instance indices11 : @NeZero Nat Zero.ofOfNat0 11 := ⟨by decide⟩
instance indices16 : @NeZero Nat Zero.ofOfNat0 16 := ⟨by decide⟩
instance indices17 : @NeZero Nat Zero.ofOfNat0 17 := ⟨by decide⟩
instance indices19 : @NeZero Nat Zero.ofOfNat0 19 := ⟨by decide⟩

end Vp8
