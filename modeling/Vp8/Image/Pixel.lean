/-!
Arithmetic on pixels: saturation and rounded means.
-/
namespace Vp8

def saturate (low high x : Int) : Int := min (max x low) high

def clampByte (x : Int) : UInt8 := (saturate 0 255 x).toNat.toUInt8

def clampSigned (x : Int) : Int := saturate (-128) 127 x

def mean2 (a b : UInt8) : UInt8 := ((a.toNat + b.toNat + 1) / 2).toUInt8

def mean3 (a b c : UInt8) : UInt8 := ((a.toNat + 2 * b.toNat + c.toNat + 2) / 4).toUInt8

end Vp8
