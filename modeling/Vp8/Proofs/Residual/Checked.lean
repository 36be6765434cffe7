import Vp8.Frame.Reconstruction
import Vp8.Proofs.Macroblock.Checked

/-!
Reading coefficients with every access checked: the band and the place in the block of every scan
position, and the walks through the token tree.
-/
namespace Vp8

open Coded

namespace Token

def probsAt? (probs : BandProbs) (position : Nat) (context : Fin 3) : Option NodeProbs := do
  let band ← bands[position]?
  return (probs.get band).get context

theorem probsAt?_eq (probs : BandProbs) (position : Fin 17) (context : Fin 3) :
    probsAt? probs position context = some (probsAt probs position context) := by
  unfold probsAt?
  rw [Vector.getElem?_eq_getElem position.isLt]
  rfl

end Token

namespace Block

def readTokens? (probs : BandProbs) :
    (left : Nat) → (mayEnd : Bool) → Fin 3 → Block → OptionT Coded Block
  | 0, _, _, block => return block
  | left + 1, mayEnd, context, block => do
    let position := 15 - left
    let p ← found (Token.probsAt? probs position context)
    let more ← if mayEnd then sure (Coded.bool (p.get 0)) else pure true
    if !more then return block
    else if ← sure (Coded.bool (p.get 1)) then
      let token := Token.ofLeaf (← Token.tree.read? p Token.nonzeroPair)
      let value ← sure token.readSigned
      let place ← found Block.zigzag[position]?
      readTokens? probs left true token.nextContext (replaceAt block place value)
    else readTokens? probs left false 0 block

def read? (probs : BandProbs) (context : Fin 3) (first : Nat) : OptionT Coded (Block × Bool) := do
  let p ← found (Token.probsAt? probs first context)
  if ← sure (Coded.bool (p.get 0)) then
    return (← readTokens? probs (16 - first) false context .zero, true)
  else return (.zero, false)

theorem readTokens?_eq (probs : BandProbs) (left : Nat) (mayEnd : Bool) (context : Fin 3)
    (block : Block) :
    readTokens? probs left mayEnd context block =
      sure (readTokens probs left mayEnd context block) := by
  induction left generalizing mayEnd context block with
  | zero => rfl
  | succ left ih =>
    have position : 15 - left < 16 := by omega
    have probabilities :=
      Token.probsAt?_eq probs (Fin.castSucc ⟨15 - left, position⟩) context
    have place : Block.zigzag[15 - left]? = some (Block.zigzag.get ⟨15 - left, position⟩) :=
      Vector.getElem?_eq_getElem position
    have tree (probs : Vector UInt8 11) :=
      Token.tree.read?_eq probs Token.nonzeroPair (by decide)
    unfold readTokens? readTokens
    dsimp only [Fin.val_castSucc] at probabilities ⊢
    simp only [probabilities, place, tree, ih, found_some, pure_bind, sure_bind, sure_ite,
      sure_pure]

theorem read?_eq (probs : BandProbs) (context : Fin 3) (first : Fin 17) :
    read? probs context first = sure (read probs context first) := by
  unfold read? read
  simp only [Token.probsAt?_eq, readTokens?_eq, found_some, pure_bind, sure_bind, sure_ite,
    sure_pure]

end Block

namespace PlaneBlocks

variable {n : Nat}

def readBlock? (probs : BandProbs) (first : Fin 17) (y : Fin n) (p : PlaneBlocks n) (x : Fin n) :
    OptionT Coded (PlaneBlocks n) := do
  let (block, coded) ← Block.read? probs (neighbourContext (p.above.get x) (p.left.get y)) first
  return {
    blocks := p.blocks.set y x block
    above := replaceAt p.above x coded
    left := replaceAt p.left y coded
    coded := p.coded || coded }

def read? (probs : BandProbs) (first : Fin 17) (above left : Vector Bool n) :
    OptionT Coded (PlaneBlocks n) :=
  (List.finRange n).foldlM
    (fun p y => (List.finRange n).foldlM (readBlock? probs first y) p)
    { blocks := .zero n, above, left, coded := false }

theorem read?_eq (probs : BandProbs) (first : Fin 17) (above left : Vector Bool n) :
    read? probs first above left = sure (read probs first above left) := by
  apply foldlM_sure
  intro p y
  apply foldlM_sure
  intro p x
  unfold readBlock? readBlock
  simp only [Block.read?_eq, sure_bind, sure_pure]

end PlaneBlocks

namespace MacroblockTokens

def readSecond? (probs : CoefficientProbs) (hasSecond above left : Bool) :
    OptionT Coded (Block × Bool) :=
  if hasSecond then
    Block.read? (probs.get BlockType.second.index) (neighbourContext above left) 0
  else return (.zero, false)

def readLuma? (probs : CoefficientProbs) (hasSecond : Bool) (above left : Vector Bool 4) :
    OptionT Coded (PlaneBlocks 4) :=
  if hasSecond then PlaneBlocks.read? (probs.get BlockType.lumaWithoutDc.index) 1 above left
  else PlaneBlocks.read? (probs.get BlockType.lumaWithDc.index) 0 above left

def read? (probs : CoefficientProbs) (hasSecond : Bool) (above left : EdgeFlags) :
    OptionT Coded MacroblockTokens := do
  let (second, secondCoded) ← readSecond? probs hasSecond above.second left.second
  let luma ← readLuma? probs hasSecond above.luma left.luma
  let cb ← PlaneBlocks.read? (probs.get BlockType.chroma.index) 0 above.cb left.cb
  let cr ← PlaneBlocks.read? (probs.get BlockType.chroma.index) 0 above.cr left.cr
  return {
    coefficients := ⟨second, luma.blocks, cb.blocks, cr.blocks⟩
    above := ⟨luma.above, cb.above, cr.above, if hasSecond then secondCoded else above.second⟩
    left := ⟨luma.left, cb.left, cr.left, if hasSecond then secondCoded else left.second⟩
    coded := secondCoded || luma.coded || cb.coded || cr.coded }

theorem read?_eq (probs : CoefficientProbs) (hasSecond : Bool) (above left : EdgeFlags) :
    read? probs hasSecond above left = sure (read probs hasSecond above left) := by
  have second := Block.read?_eq (probs.get BlockType.second.index)
    (neighbourContext above.second left.second) 0
  unfold read? read readSecond? readLuma? readSecond readLuma
  simp only [Fin.val_zero] at second
  simp only [second, PlaneBlocks.read?_eq, sure_bind, sure_ite, sure_pure]

end MacroblockTokens

variable {cols : Nat}

def TokenContext.read? (probs : CoefficientProbs) (t : TokenContext cols) (c : Fin cols)
    (hasSecond : Bool) : OptionT Coded ((Coefficients × Bool) × TokenContext cols) := do
  let tokens ← MacroblockTokens.read? probs hasSecond (t.above.get c) t.left
  return ((tokens.coefficients, tokens.coded), ⟨replaceAt t.above c tokens.above, tokens.left⟩)

theorem TokenContext.read?_eq (probs : CoefficientProbs) (t : TokenContext cols) (c : Fin cols)
    (hasSecond : Bool) : t.read? probs c hasSecond = sure (t.read probs c hasSecond) := by
  unfold TokenContext.read? TokenContext.read
  simp only [MacroblockTokens.read?_eq, sure_bind, sure_pure]

def Macroblock.readResidual? (m : Macroblock) (factors : Vector Factors 4)
    (probs : CoefficientProbs) (tokens : TokenContext cols) (c : Fin cols) :
    OptionT Coded ((Option Residual × Macroblock) × TokenContext cols) := do
  let hasSecond := m.mode.hasSecondOrder
  if m.skipped then return ((none, m), tokens.skip c hasSecond)
  else
    let ((coefficients, coded), tokens) ← tokens.read? probs c hasSecond
    if coded then
      let f ← found factors[m.segment % 4]?
      return ((some (coefficients.dequantize f hasSecond).residual, m), tokens)
    else return ((none, { m with skipped := hasSecond }), tokens)

theorem Macroblock.readResidual?_eq (m : Macroblock) (factors : Vector Factors 4)
    (probs : CoefficientProbs) (tokens : TokenContext cols) (c : Fin cols) :
    m.readResidual? factors probs tokens c = sure (m.readResidual factors probs tokens c) := by
  have known : factors[m.segment % 4]? = some (factors.get (Fin.ofNat 4 m.segment)) :=
    Vector.getElem?_eq_getElem (Nat.mod_lt _ (by decide))
  unfold Macroblock.readResidual? Macroblock.readResidual
  simp only [known, TokenContext.read?_eq, found_some, pure_bind, sure_bind, sure_ite, sure_pure]

end Vp8
