import Vp8.Residual.Dequantization

/-!
The two inverse transforms: a cosine transform that turns dequantized coefficients into a residual,
and a Walsh-Hadamard transform that spreads the second-order block over the luma blocks. Decoders
that conform hold coefficients in 16-bit words, and out-of-range streams show where these wrap.
-/
namespace Vp8

def wrap16 (x : Int) : Int := x.bmod 65536

structure Line where
  x0 : Int
  x1 : Int
  x2 : Int
  x3 : Int
  deriving DecidableEq, Repr

namespace Line

def map (f : Int → Int) (l : Line) : Line := ⟨f l.x0, f l.x1, f l.x2, f l.x3⟩

def scaleSine (x : Int) : Int := x * 35468 / 65536

def scaleCosine (x : Int) : Int := x + x * 20091 / 65536

def cosine (l : Line) : Line :=
  let a := l.x0 + l.x2
  let b := l.x0 - l.x2
  let c := scaleSine l.x1 - scaleCosine l.x3
  let d := scaleCosine l.x1 + scaleSine l.x3
  ⟨a + d, b + c, b - c, a - d⟩

def walsh (l : Line) : Line :=
  let a := l.x0 + l.x3
  let b := l.x1 + l.x2
  let c := l.x1 - l.x2
  let d := l.x0 - l.x3
  ⟨a + b, c + d, a - b, d - c⟩

end Line

namespace Block

def mapColumns (f : Line → Line) (b : Block) : Block :=
  let c0 := f ⟨b.get 0, b.get 4, b.get 8, b.get 12⟩
  let c1 := f ⟨b.get 1, b.get 5, b.get 9, b.get 13⟩
  let c2 := f ⟨b.get 2, b.get 6, b.get 10, b.get 14⟩
  let c3 := f ⟨b.get 3, b.get 7, b.get 11, b.get 15⟩
  #v[c0.x0, c1.x0, c2.x0, c3.x0, c0.x1, c1.x1, c2.x1, c3.x1,
    c0.x2, c1.x2, c2.x2, c3.x2, c0.x3, c1.x3, c2.x3, c3.x3]

def mapRows (f : Line → Line) (b : Block) : Block :=
  let r0 := f ⟨b.get 0, b.get 1, b.get 2, b.get 3⟩
  let r1 := f ⟨b.get 4, b.get 5, b.get 6, b.get 7⟩
  let r2 := f ⟨b.get 8, b.get 9, b.get 10, b.get 11⟩
  let r3 := f ⟨b.get 12, b.get 13, b.get 14, b.get 15⟩
  #v[r0.x0, r0.x1, r0.x2, r0.x3, r1.x0, r1.x1, r1.x2, r1.x3,
    r2.x0, r2.x1, r2.x2, r2.x3, r3.x0, r3.x1, r3.x2, r3.x3]

/-- Inverse cosine transform. The coefficients, what passes from columns to rows, and the result
    are 16-bit words. -/
def inverseCosine (b : Block) : Block :=
  let columns := mapColumns (fun l => l.cosine.map wrap16) (b.map wrap16)
  mapRows (fun l => l.cosine.map fun x => wrap16 ((x + 4) / 8)) columns

/-- Inverse Walsh-Hadamard transform: entry `i` is the DC coefficient of luma block `i`. The
    coefficients and the result are 16-bit words. -/
def inverseWalsh (b : Block) : Block :=
  let columns := mapColumns Line.walsh (b.map wrap16)
  mapRows (fun l => l.walsh.map fun x => wrap16 ((x + 3) / 8)) columns

def residual (b : Block) : Block := if isZero b then zero else inverseCosine b

end Block

namespace Coefficients

/-- The luma blocks, with the DC coefficients of the second-order block put in place. -/
def spreadSecond (second : Block) (luma : BlockGrid 4) : BlockGrid 4 :=
  let dcs := Block.inverseWalsh second
  .ofFn fun y => .ofFn fun x => replaceAt ((luma.get y).get x) 0 (dcs.get (Block.position y x))

def dequantize (f : Factors) (hasSecond : Bool) (c : Coefficients) : Coefficients :=
  let luma := BlockGrid.map (Block.dequantize f.luma) c.luma
  let second := Block.dequantize f.second c.second
  { second := if hasSecond then second else c.second
    luma := if hasSecond then spreadSecond second luma else luma
    cb := BlockGrid.map (Block.dequantize f.chroma) c.cb
    cr := BlockGrid.map (Block.dequantize f.chroma) c.cr }

def residual (c : Coefficients) : Residual :=
  ⟨BlockGrid.map Block.residual c.luma, BlockGrid.map Block.residual c.cb,
    BlockGrid.map Block.residual c.cr⟩

end Coefficients

end Vp8
