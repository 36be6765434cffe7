import Vp8.Residual.Token

/-!
Contexts of coefficient blocks. A block is coded in the context of how many of its two neighbours of
the same kind, above and to the left, had any token. The flags of the blocks along the lower and the
right edge of the macroblocks read so far are all that has to be kept for this.
-/
namespace Vp8

structure EdgeFlags where
  luma : Vector Bool 4
  cb : Vector Bool 2
  cr : Vector Bool 2
  /-- This one is about the last macroblock that had a second-order block. -/
  second : Bool
  deriving DecidableEq, Repr

namespace EdgeFlags

def none : EdgeFlags := ⟨.replicate 4 false, .replicate 2 false, .replicate 2 false, false⟩

def clear (e : EdgeFlags) (hasSecond : Bool) : EdgeFlags :=
  { none with second := !hasSecond && e.second }

end EdgeFlags

inductive BlockType where
  | lumaWithoutDc
  | second
  | chroma
  | lumaWithDc
  deriving DecidableEq, Repr

def BlockType.index : BlockType → Fin 4
  | lumaWithoutDc => 0
  | second => 1
  | chroma => 2
  | lumaWithDc => 3

def neighbourContext (above left : Bool) : Fin 3 :=
  match above, left with
  | false, false => 0
  | true, true => 2
  | _, _ => 1

structure PlaneBlocks (n : Nat) where
  blocks : BlockGrid n
  above : Vector Bool n
  left : Vector Bool n
  coded : Bool

namespace PlaneBlocks

def readBlock (probs : BandProbs) (first : Fin 17) (y : Fin n) (p : PlaneBlocks n) (x : Fin n) :
    Coded (PlaneBlocks n) := do
  let (block, coded) ← Block.read probs (neighbourContext (p.above.get x) (p.left.get y)) first
  return {
    blocks := p.blocks.set y x block
    above := replaceAt p.above x coded
    left := replaceAt p.left y coded
    coded := p.coded || coded }

def read (probs : BandProbs) (first : Fin 17) (above left : Vector Bool n) :
    Coded (PlaneBlocks n) :=
  (List.finRange n).foldlM
    (fun p y => (List.finRange n).foldlM (readBlock probs first y) p)
    { blocks := .zero n, above, left, coded := false }

end PlaneBlocks

structure MacroblockTokens where
  coefficients : Coefficients
  above : EdgeFlags
  left : EdgeFlags
  coded : Bool

namespace MacroblockTokens

def readSecond (probs : CoefficientProbs) (hasSecond above left : Bool) :
    Coded (Block × Bool) :=
  if hasSecond then
    Block.read (probs.get BlockType.second.index) (neighbourContext above left) 0
  else return (.zero, false)

/-- The luma blocks come without DC where the second-order block carries it. -/
def readLuma (probs : CoefficientProbs) (hasSecond : Bool) (above left : Vector Bool 4) :
    Coded (PlaneBlocks 4) :=
  if hasSecond then PlaneBlocks.read (probs.get BlockType.lumaWithoutDc.index) 1 above left
  else PlaneBlocks.read (probs.get BlockType.lumaWithDc.index) 0 above left

def read (probs : CoefficientProbs) (hasSecond : Bool) (above left : EdgeFlags) :
    Coded MacroblockTokens := do
  let (second, secondCoded) ← readSecond probs hasSecond above.second left.second
  let luma ← readLuma probs hasSecond above.luma left.luma
  let cb ← PlaneBlocks.read (probs.get BlockType.chroma.index) 0 above.cb left.cb
  let cr ← PlaneBlocks.read (probs.get BlockType.chroma.index) 0 above.cr left.cr
  return {
    coefficients := ⟨second, luma.blocks, cb.blocks, cr.blocks⟩
    above := ⟨luma.above, cb.above, cr.above, if hasSecond then secondCoded else above.second⟩
    left := ⟨luma.left, cb.left, cr.left, if hasSecond then secondCoded else left.second⟩
    coded := secondCoded || luma.coded || cb.coded || cr.coded }

end MacroblockTokens

/-- The flags of a frame in raster order: below every macroblock of the row above, and to the right
    of the macroblock before. -/
structure TokenContext (cols : Nat) where
  above : Vector EdgeFlags cols
  left : EdgeFlags

namespace TokenContext

def blank (cols : Nat) : TokenContext cols := ⟨.replicate cols .none, .none⟩

def startRow (t : TokenContext cols) : TokenContext cols := { t with left := .none }

def skip (t : TokenContext cols) (c : Fin cols) (hasSecond : Bool) : TokenContext cols where
  above := replaceAt t.above c ((t.above.get c).clear hasSecond)
  left := t.left.clear hasSecond

def read (probs : CoefficientProbs) (t : TokenContext cols) (c : Fin cols) (hasSecond : Bool) :
    Coded ((Coefficients × Bool) × TokenContext cols) := do
  let tokens ← MacroblockTokens.read probs hasSecond (t.above.get c) t.left
  return ((tokens.coefficients, tokens.coded), ⟨replaceAt t.above c tokens.above, tokens.left⟩)

end TokenContext

end Vp8
