import Vp8.Proofs.Residual.RoundTrip
import Vp8.Residual.Context
import Vp8.Residual.Dequantization

/-!
How large coefficients and their factors can be. Whatever the bits are, a token stands for at most
2114 and is put at its place in the scan or behind it; whatever the indices are, a factor is at
least four and at most 440.
-/
namespace Vp8

namespace Token

theorem readExtra_lt (probs : List UInt8) (high : Nat) :
    (readExtra high probs).Yields (· < (high + 1) * 2 ^ probs.length) := by
  induction probs generalizing high with
  | nil =>
    change high < (high + 1) * 2 ^ 0
    omega
  | cons prob probs ih =>
    refine Coded.Yields.after _ fun bit => (ih _).mono fun extra lt => ?_
    have step : 2 * high + bit.toNat + 1 ≤ 2 * (high + 1) := by
      have := Bool.toNat_le bit
      omega
    calc extra
      _ < (2 * high + bit.toNat + 1) * 2 ^ probs.length := lt
      _ ≤ 2 * (high + 1) * 2 ^ probs.length := Nat.mul_le_mul_right _ step
      _ = (high + 1) * 2 ^ (prob :: probs).length := by rw [List.length_cons]; ring

theorem category_le (k : Fin 6) :
    categoryBase.get k + 2 ^ (categoryProbs.get k).length ≤ maxMagnitude + 1 := by
  revert k
  decide

theorem readMagnitude_le (leaf : Nat) : (ofLeaf leaf).readMagnitude.Yields (· ≤ maxMagnitude) := by
  have large : 4 ≤ maxMagnitude := by decide
  unfold ofLeaf
  split
  · change leaf ≤ maxMagnitude
    omega
  · split
    · refine (readExtra_lt _ _).bind fun extra lt => ?_
      rw [Nat.zero_add, Nat.one_mul] at lt
      have bound := category_le ⟨leaf - 5, by omega⟩
      change categoryBase.get _ + extra ≤ maxMagnitude
      omega
    · exact Nat.zero_le _

theorem readSigned_le (leaf : Nat) :
    (ofLeaf leaf).readSigned.Yields fun value => value.natAbs ≤ maxMagnitude := by
  unfold readSigned
  refine (readMagnitude_le leaf).bind fun magnitude le => Coded.Yields.after _ fun negative => ?_
  cases negative with
  | false => exact le
  | true =>
    change (-(magnitude : Int)).natAbs ≤ maxMagnitude
    rwa [Int.natAbs_neg]

end Token

namespace Block

/-- From one block to another, nothing changes but the last so many positions of the scan, and what
    is new there is no larger than a token can be. -/
def Stored (left : Nat) (before after : Block) : Prop :=
  ∀ i : Fin 16, after.get (zigzag.get i) = before.get (zigzag.get i) ∨
    16 - left ≤ i.val ∧ (after.get (zigzag.get i)).natAbs ≤ Token.maxMagnitude

theorem Stored.refl (left : Nat) (block : Block) : Stored left block block := fun _ => .inl rfl

theorem Stored.later {left : Nat} {before after : Block} (stored : Stored left before after) :
    Stored (left + 1) before after := by
  intro i
  rcases stored i with same | ⟨place, small⟩
  · exact .inl same
  · exact .inr ⟨by omega, small⟩

theorem Stored.replace {left : Nat} {before after : Block} {value : Int}
    (small : value.natAbs ≤ Token.maxMagnitude)
    (stored : Stored left
      (replaceAt before (zigzag.get ⟨15 - left, scan_lt left⟩) value) after) :
    Stored (left + 1) before after := by
  intro i
  rcases stored i with same | ⟨place, small⟩
  · rw [get_replaceAt] at same
    split at same
    · rename_i here
      obtain rfl := zigzag_injective here
      exact .inr ⟨by dsimp only; omega, same ▸ small⟩
    · exact .inl same
  · exact .inr ⟨by omega, small⟩

theorem readTokens_stored (probs : BandProbs) (left : Nat) (mayEnd : Bool) (context : Fin 3)
    (block : Block) : (readTokens probs left mayEnd context block).Yields (Stored left block) := by
  induction left generalizing mayEnd context block with
  | zero => exact Stored.refl 0 block
  | succ left ih =>
    unfold readTokens
    dsimp only
    -- whether the block goes on is read or known, and then all is the same
    split
    all_goals
      refine Coded.Yields.after _ fun more => ?_
      cases more with
      | false => exact Stored.refl _ block
      | true =>
        refine Coded.Yields.after _ fun nonzero => ?_
        cases nonzero with
        | false => exact (ih false 0 block).mono fun _ stored => stored.later
        | true =>
          refine Coded.Yields.after _ fun leaf =>
            (Token.readSigned_le leaf).bind fun value small => ?_
          exact (ih _ _ _).mono fun _ stored => stored.replace small

def Small (b : Block) : Prop := ∀ i, (b.get i).natAbs ≤ Token.maxMagnitude

theorem zero_small : Small .zero := by
  intro i
  rw [zero, get_replicate]
  exact Nat.zero_le _

theorem zigzag_surjective (k : Fin 16) : ∃ i, zigzag.get i = k := by
  revert k
  decide

theorem read_stored (probs : BandProbs) (context : Fin 3) (first : Fin 17) :
    (read probs context first).Yields fun a => Stored (16 - first) .zero a.1 := by
  unfold read
  refine Coded.Yields.after _ fun some => ?_
  cases some with
  | false => exact Stored.refl _ _
  | true => exact (readTokens_stored probs _ false context .zero).bind fun block stored => stored

theorem Stored.small {left : Nat} {block : Block} (stored : Stored left .zero block) :
    block.Small := by
  intro k
  obtain ⟨i, rfl⟩ := zigzag_surjective k
  rcases stored i with same | ⟨_, small⟩
  · rw [same]
    exact zero_small _
  · exact small

theorem Stored.front {left : Nat} {block : Block} (stored : Stored left .zero block) {i : Fin 16}
    (front : i.val < 16 - left) : block.get (zigzag.get i) = 0 := by
  rcases stored i with same | ⟨place, _⟩
  · rw [same, zero, get_replicate]
  · omega

end Block

def BlockGrid.All {n : Nat} (P : Block → Prop) (g : BlockGrid n) : Prop :=
  ∀ y x, P ((g.get y).get x)

namespace BlockGrid

variable {n : Nat} {P Q : Block → Prop} {g : BlockGrid n}

theorem All.mono (all : g.All P) (weaker : ∀ b, P b → Q b) : g.All Q := fun y x =>
  weaker _ (all y x)

theorem zero_all (zero : P .zero) : (BlockGrid.zero n).All P := by
  intro y x
  rw [BlockGrid.zero, get_replicate, get_replicate]
  exact zero

theorem All.set (all : g.All P) (y x : Fin n) {b : Block} (new : P b) : (g.set y x b).All P := by
  intro j i
  unfold BlockGrid.set
  rw [get_replaceAt]
  split
  · rename_i row
    rw [get_replaceAt]
    split
    · exact new
    · exact all y i
  · exact all j i

end BlockGrid

namespace PlaneBlocks

theorem read_all {n : Nat} {P : Block → Prop} (probs : BandProbs) (first : Fin 17)
    (above left : Vector Bool n) (zero : P .zero)
    (each : ∀ context, (Block.read probs context first).Yields fun a => P a.1) :
    (read probs first above left).Yields (·.blocks.All P) := by
  have block (y : Fin n) (p : PlaneBlocks n) (x : Fin n) (all : p.blocks.All P) :
      (readBlock probs first y p x).Yields (·.blocks.All P) :=
    (each _).bind fun _ new => all.set y x new
  refine Coded.Yields.foldlM (fun _ (p : PlaneBlocks n) => p.blocks.All P) (fun y p all => ?_)
    (BlockGrid.zero_all zero)
  exact Coded.Yields.foldlM (fun _ (p : PlaneBlocks n) => p.blocks.All P)
    (fun x p all => block y p x all) all

end PlaneBlocks

structure Coefficients.Small (c : Coefficients) : Prop where
  second : c.second.Small
  luma : c.luma.All Block.Small
  cb : c.cb.All Block.Small
  cr : c.cr.All Block.Small

namespace MacroblockTokens

theorem readSecond_small (probs : CoefficientProbs) (hasSecond above left : Bool) :
    (readSecond probs hasSecond above left).Yields fun a => a.1.Small := by
  unfold readSecond
  split
  · exact (Block.read_stored _ _ _).mono fun _ stored => stored.small
  · exact Block.zero_small

theorem readLuma_stored (probs : CoefficientProbs) (hasSecond : Bool) (above left : Vector Bool 4) :
    (readLuma probs hasSecond above left).Yields
      (·.blocks.All (Block.Stored (if hasSecond then 15 else 16) .zero)) := by
  unfold readLuma
  cases hasSecond with
  | false => exact PlaneBlocks.read_all _ 0 _ _ (.refl _ _) fun _ => Block.read_stored _ _ 0
  | true => exact PlaneBlocks.read_all _ 1 _ _ (.refl _ _) fun _ => Block.read_stored _ _ 1

theorem readChroma_small (probs : CoefficientProbs) (above left : Vector Bool 2) :
    (PlaneBlocks.read (probs.get BlockType.chroma.index) 0 above left).Yields
      (·.blocks.All Block.Small) :=
  PlaneBlocks.read_all _ 0 _ _ Block.zero_small fun _ =>
    (Block.read_stored _ _ _).mono fun _ stored => stored.small

theorem read_small (probs : CoefficientProbs) (hasSecond : Bool) (above left : EdgeFlags) :
    (read probs hasSecond above left).Yields fun tokens =>
      tokens.coefficients.Small ∧
        (hasSecond = true → tokens.coefficients.luma.All fun b => b.get 0 = 0) := by
  unfold read
  refine (readSecond_small _ _ _ _).bind fun second small => ?_
  refine (readLuma_stored _ _ _ _).bind fun luma stored => ?_
  refine (readChroma_small _ _ _).bind fun cb smallCb => ?_
  refine (readChroma_small _ _ _).bind fun cr smallCr => ?_
  refine ⟨⟨small, stored.mono fun _ stored => stored.small, smallCb, smallCr⟩, ?_⟩
  rintro rfl
  exact stored.mono fun _ stored => stored.front (i := 0) (by decide)

end MacroblockTokens

theorem TokenContext.read_small {cols : Nat} (probs : CoefficientProbs) (t : TokenContext cols)
    (c : Fin cols) (hasSecond : Bool) :
    (t.read probs c hasSecond).Yields fun a =>
      a.1.1.Small ∧ (hasSecond = true → a.1.1.luma.All fun b => b.get 0 = 0) :=
  (MacroblockTokens.read_small _ _ _ _).bind fun _ small => small

def Block.IsFactors (f : Block) : Prop := ∀ i, 4 ≤ f.get i ∧ f.get i ≤ 440

namespace Factors

theorem dc_bounds (q : Int) : 4 ≤ Quantizer.dc q ∧ Quantizer.dc q ≤ 157 := by
  have table : ∀ k : Fin 128, 4 ≤ Quantizer.dcTable.get k ∧ Quantizer.dcTable.get k ≤ 157 := by
    decide
  exact table _

theorem ac_bounds (q : Int) : 4 ≤ Quantizer.ac q ∧ Quantizer.ac q ≤ 284 := by
  have table : ∀ k : Fin 128, 4 ≤ Quantizer.acTable.get k ∧ Quantizer.acTable.get k ≤ 284 := by
    decide
  exact table _

theorem block_isFactors {dc ac : Int} (first : 4 ≤ dc ∧ dc ≤ 440) (others : 4 ≤ ac ∧ ac ≤ 440) :
    (block dc ac).IsFactors := by
  intro i
  unfold block
  rw [get_replaceAt, get_replicate]
  split
  · exact first
  · exact others

structure Bounded (f : Factors) : Prop where
  luma : f.luma.IsFactors
  second : f.second.IsFactors
  chroma : f.chroma.IsFactors

theorem ofIndex_bounded (index : Int) (indices : QuantizerIndices) :
    (ofIndex index indices).Bounded := by
  constructor
  all_goals
    apply block_isFactors
  · have := dc_bounds ((Quantizer.clampIndex index).val + indices.lumaDc)
    omega
  · have := ac_bounds (Quantizer.clampIndex index).val
    omega
  · have := dc_bounds ((Quantizer.clampIndex index).val + indices.secondDc)
    omega
  · have := ac_bounds ((Quantizer.clampIndex index).val + indices.secondAc)
    omega
  · have := dc_bounds ((Quantizer.clampIndex index).val + indices.chromaDc)
    omega
  · have := ac_bounds ((Quantizer.clampIndex index).val + indices.chromaAc)
    omega

theorem ofSegments_bounded (indices : QuantizerIndices) (seg : Segmentation) (id : Fin 4) :
    ((ofSegments indices seg).get id).Bounded := by
  unfold ofSegments
  rw [get_ofFn]
  exact ofIndex_bounded _ _

end Factors

end Vp8
