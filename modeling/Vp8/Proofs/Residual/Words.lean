import Mathlib.Algebra.BigOperators.Fin
import Mathlib.Tactic.Ring
import Vp8.Proofs.Residual.Lines

/-!
The inverse transforms next to those of decoders whose blocks are 16-bit words, where every number
that is stored wraps around. The cosine transform agrees with theirs. The Walsh-Hadamard transform
keeps its columns whole, and agrees with theirs exactly where what the columns have beyond their
words adds up to a multiple of eight in the rows.
-/
namespace Vp8

abbrev WordBlock := Vector Int16 16

/-- Signs of the Walsh-Hadamard transform: rows in the order of their sign changes. -/
def walshSigns : Fin 4 → Fin 4 → Int :=
  ![![1, 1, 1, 1], ![1, 1, -1, -1], ![1, -1, -1, 1], ![1, -1, 1, -1]]

def walshSum (g : Fin 4 → Int) (i : Fin 4) : Int := ∑ k, walshSigns i k * g k

namespace WordBlock

def ofBlock (b : Block) : WordBlock := b.map Int16.ofInt

def toBlock (w : WordBlock) : Block := w.map Int16.toInt

def entry (w : WordBlock) (y x : Fin 4) : Int := (w.get (Block.position y x)).toInt

def store (g : Fin 4 → Fin 4 → Int) : WordBlock :=
  .ofFn fun i => Int16.ofInt (g ⟨i / 4, by omega⟩ ⟨i % 4, by omega⟩)

def inverseCosine (w : WordBlock) : WordBlock :=
  let columns := store fun y x => (Line.ofFn fun k => w.entry k x).cosine.entry y
  store fun y x => ((Line.ofFn fun k => columns.entry y k).cosine.entry x + 4) / 8

def inverseWalsh (w : WordBlock) : WordBlock :=
  let columns := store fun y x => walshSum (fun k => w.entry k x) y
  store fun y x => (walshSum (fun k => columns.entry y k) x + 3) / 8

theorem toInt_ofInt (x : Int) : (Int16.ofInt x).toInt = wrap16 x := Int16.toInt_ofInt

theorem entry_ofBlock (b : Block) (y x : Fin 4) :
    (ofBlock b).entry y x = wrap16 (b.get (Block.position y x)) := by
  unfold entry ofBlock
  rw [get_map, toInt_ofInt]

theorem entry_store (g : Fin 4 → Fin 4 → Int) (y x : Fin 4) :
    (store g).entry y x = wrap16 (g y x) := by
  have row : (⟨(4 * y.val + x.val) / 4, by omega⟩ : Fin 4) = y := Fin.ext (by dsimp only; omega)
  have column : (⟨(4 * y.val + x.val) % 4, by omega⟩ : Fin 4) = x := Fin.ext (by dsimp only; omega)
  unfold entry store
  rw [get_ofFn, toInt_ofInt]
  dsimp only [Block.position]
  rw [row, column]

theorem get_toBlock (w : WordBlock) (y x : Fin 4) :
    w.toBlock.get (Block.position y x) = w.entry y x := get_map _ _ _

end WordBlock

namespace Block

def cosineColumn (b : Block) (y x : Fin 4) : Int :=
  (Line.ofFn fun k => wrap16 (b.get (position k x))).cosine.entry y

theorem get_inverseCosine (b : Block) (y x : Fin 4) :
    b.inverseCosine.get (position y x) =
      wrap16 (((Line.ofFn fun k => wrap16 (b.cosineColumn y k)).cosine.entry x + 4) / 8) := by
  simp only [inverseCosine, cosineColumn, get_mapRows, row, get_mapColumns, column, Line.entry_map,
    get_map]

theorem inverseCosine_eq_words (b : Block) :
    b.inverseCosine = (WordBlock.ofBlock b).inverseCosine.toBlock := by
  apply ext_position
  intro y x
  rw [get_inverseCosine, WordBlock.get_toBlock]
  simp only [WordBlock.inverseCosine, cosineColumn, WordBlock.entry_store,
    WordBlock.entry_ofBlock]

theorem cosineColumn_other (b : Block) (dc : Int) (y : Fin 4) {x : Fin 4} (other : x ≠ 0) :
    cosineColumn (replaceAt b 0 dc) y x = b.cosineColumn y x := by
  have places (k : Fin 4) : 0 ≠ position k x := by
    intro same
    have := congrArg Fin.val same
    dsimp only [position] at this
    omega
  unfold cosineColumn
  simp only [get_replaceAt_of_ne b dc (places _)]

theorem cosineColumn_dc (b : Block) (dc : Int) :
    cosineColumn (replaceAt b 0 dc) 0 0 =
      wrap16 dc + (b.cosineColumn 0 0 - wrap16 (b.get (position 0 0))) := by
  have first : (replaceAt b 0 dc).get (position 0 0) = dc := get_replaceAt_self b 0 dc
  have others (k : Fin 4) (other : 0 ≠ position k 0) :
      (replaceAt b 0 dc).get (position k 0) = b.get (position k 0) :=
    get_replaceAt_of_ne b dc other
  simp only [cosineColumn, Line.ofFn, Line.cosine, Line.entry, first, others 1 (by decide),
    others 2 (by decide), others 3 (by decide)]
  ring

/-- Of DC coefficients that lie a multiple of 8192 apart, no two words have the same residual. -/
theorem inverseCosine_tells_dc (b : Block) {d e : Int} (apart : (d - e) % 8192 = 0)
    (same : inverseCosine (replaceAt b 0 d) = inverseCosine (replaceAt b 0 e)) :
    wrap16 d = wrap16 e := by
  have entries := congrArg (fun b : Block => b.get (position 0 0)) same
  simp only [get_inverseCosine, Line.ofFn, Line.cosine, Line.entry, cosineColumn_dc,
    cosineColumn_other b _ _ (show (1 : Fin 4) ≠ 0 by decide),
    cosineColumn_other b _ _ (show (2 : Fin 4) ≠ 0 by decide),
    cosineColumn_other b _ _ (show (3 : Fin 4) ≠ 0 by decide)] at entries
  -- what the rest of the block adds to the column and to the row is the same on both sides
  generalize b.cosineColumn 0 0 - wrap16 (b.get (position 0 0)) = column at entries
  generalize Line.scaleCosine (wrap16 (b.cosineColumn 0 1)) +
    Line.scaleSine (wrap16 (b.cosineColumn 0 3)) = row at entries
  simp only [wrap16_eq] at entries ⊢
  omega

end Block

/-! The columns of the Walsh-Hadamard transform, and what is lost of them in words. -/

/-- How often a number has gone round before it is the word that it is stored in. -/
def turns (x : Int) : Int := (x - wrap16 x) / 65536

theorem turns_spec (x : Int) : x = wrap16 x + 65536 * turns x := by
  unfold turns
  rw [wrap16_eq]
  omega

theorem Line.walsh_entry (g : Fin 4 → Int) (k : Fin 4) :
    (ofFn g).walsh.entry k = walshSum g k := by
  unfold walshSum
  rw [Fin.sum_univ_four]
  fin_cases k
  · change (g 0 + g 3) + (g 1 + g 2) = 1 * g 0 + 1 * g 1 + 1 * g 2 + 1 * g 3
    ring
  · change (g 1 - g 2) + (g 0 - g 3) = 1 * g 0 + 1 * g 1 + -1 * g 2 + -1 * g 3
    ring
  · change (g 0 + g 3) - (g 1 + g 2) = 1 * g 0 + -1 * g 1 + -1 * g 2 + 1 * g 3
    ring
  · change (g 0 - g 3) - (g 1 - g 2) = 1 * g 0 + -1 * g 1 + 1 * g 2 + -1 * g 3
    ring

theorem walshSum_add_mul (f g : Fin 4 → Int) (c : Int) (i : Fin 4) :
    walshSum (fun k => f k + c * g k) i = walshSum f i + c * walshSum g i := by
  unfold walshSum
  simp only [Fin.sum_univ_four]
  ring

namespace Block

def walshColumn (b : Block) (y x : Fin 4) : Int :=
  walshSum (fun k => wrap16 (b.get (position k x))) y

/-- What the columns have beyond their words, in a row pass over it. -/
def walshExcess (b : Block) (y x : Fin 4) : Int := walshSum (fun k => turns (b.walshColumn y k)) x

theorem get_inverseWalsh (b : Block) (y x : Fin 4) :
    b.inverseWalsh.get (position y x) =
      wrap16 ((walshSum (fun k => b.walshColumn y k) x + 3) / 8) := by
  simp only [inverseWalsh, walshColumn, get_mapRows, row, get_mapColumns, column, Line.entry_map,
    Line.walsh_entry, get_map]

theorem get_inverseWalsh_words (b : Block) (y x : Fin 4) :
    (WordBlock.ofBlock b).inverseWalsh.toBlock.get (position y x) =
      wrap16 ((walshSum (fun k => wrap16 (b.walshColumn y k)) x + 3) / 8) := by
  rw [WordBlock.get_toBlock]
  simp only [WordBlock.inverseWalsh, walshColumn, WordBlock.entry_store, WordBlock.entry_ofBlock]

/-- The two transforms are apart by a whole number of eighths of a word. -/
theorem walsh_sums (b : Block) (y x : Fin 4) :
    walshSum (fun k => b.walshColumn y k) x =
      walshSum (fun k => wrap16 (b.walshColumn y k)) x + 65536 * b.walshExcess y x := by
  unfold walshExcess
  rw [← walshSum_add_mul]
  exact congrArg (walshSum · x) (funext fun k => turns_spec _)

theorem get_inverseWalsh_eq_iff (b : Block) (y x : Fin 4) :
    b.inverseWalsh.get (position y x) =
        (WordBlock.ofBlock b).inverseWalsh.toBlock.get (position y x) ↔
      8 ∣ b.walshExcess y x := by
  rw [get_inverseWalsh, get_inverseWalsh_words, walsh_sums, wrap16_eq, wrap16_eq]
  omega

theorem inverseWalsh_eq_words_iff (b : Block) :
    b.inverseWalsh = (WordBlock.ofBlock b).inverseWalsh.toBlock ↔ ∀ y x, 8 ∣ b.walshExcess y x := by
  constructor
  · intro same y x
    exact (get_inverseWalsh_eq_iff b y x).mp (by rw [same])
  · intro each
    exact ext_position fun y x => (get_inverseWalsh_eq_iff b y x).mpr (each y x)

theorem eq_zero_of_isZero {b : Block} (blank : b.isZero = true) : b = zero := by
  apply ext_get
  intro k
  have each := Vector.all_eq_true.mp blank k.val k.isLt
  rw [zero, get_replicate]
  exact eq_of_beq each

theorem residual_eq_inverseCosine (b : Block) : b.residual = b.inverseCosine := by
  unfold residual
  split
  · rename_i blank
    obtain rfl := eq_zero_of_isZero blank
    decide +kernel
  · rfl

theorem residual_spread_iff (luma second : Block) (y x : Fin 4) :
    residual (replaceAt luma 0 (second.inverseWalsh.get (position y x))) =
        residual (replaceAt luma 0
          ((WordBlock.ofBlock second).inverseWalsh.toBlock.get (position y x))) ↔
      8 ∣ second.walshExcess y x := by
  rw [← get_inverseWalsh_eq_iff, residual_eq_inverseCosine, residual_eq_inverseCosine]
  constructor
  · intro same
    rw [get_inverseWalsh, get_inverseWalsh_words, walsh_sums] at same ⊢
    have words := inverseCosine_tells_dc luma (by rw [wrap16_eq, wrap16_eq]; omega) same
    rwa [wrap16_wrap16, wrap16_wrap16] at words
  · intro same
    rw [same]

end Block

/-! Macroblocks, with the DC coefficients from one transform going into the other. -/

theorem WordBlock.replaceAt_ofBlock (b : Block) (i : Fin 16) (w : Int16) :
    replaceAt (ofBlock b) i w = ofBlock (replaceAt b i w.toInt) := by
  apply ext_get
  intro k
  unfold ofBlock
  rw [get_replaceAt, get_map, get_map, get_replaceAt]
  split
  · exact (Int16.ofInt_toInt w).symm
  · rfl

theorem BlockGrid.ext {n : Nat} {g h : BlockGrid n}
    (same : ∀ y x, (g.get y).get x = (h.get y).get x) : g = h :=
  ext_get fun y => ext_get fun x => same y x

theorem Residual.ext_planes {r s : Residual} (luma : r.luma = s.luma) (cb : r.cb = s.cb)
    (cr : r.cr = s.cr) : r = s := by
  cases r
  cases s
  simp_all only

namespace Coefficients

/-- The residual of a macroblock if all its blocks are words from dequantization on. -/
def wordResidual (f : Factors) (hasSecond : Bool) (c : Coefficients) : Residual :=
  let words (factors b : Block) := WordBlock.ofBlock (Block.dequantize factors b)
  let dcs := (words f.second c.second).inverseWalsh
  let luma (y x : Fin 4) :=
    let block := words f.luma ((c.luma.get y).get x)
    if hasSecond then replaceAt block 0 (dcs.get (Block.position y x)) else block
  { luma := .ofFn fun y => .ofFn fun x => (WordBlock.inverseCosine (luma y x)).toBlock
    cb := c.cb.map fun b => (words f.chroma b).inverseCosine.toBlock
    cr := c.cr.map fun b => (words f.chroma b).inverseCosine.toBlock }

theorem map_residual_eq_words {n : Nat} (factors : Block) (g : BlockGrid n) :
    (g.map (Block.dequantize factors)).map Block.residual =
      g.map fun b => (WordBlock.ofBlock (Block.dequantize factors b)).inverseCosine.toBlock := by
  refine BlockGrid.ext fun y x => ?_
  simp only [BlockGrid.map, get_map, Block.residual_eq_inverseCosine, Block.inverseCosine_eq_words]

theorem get_residual_luma (f : Factors) (c : Coefficients) (y x : Fin 4) :
    ((c.dequantize f true).residual.luma.get y).get x =
      Block.residual (replaceAt (Block.dequantize f.luma ((c.luma.get y).get x)) 0
        ((Block.dequantize f.second c.second).inverseWalsh.get (Block.position y x))) := by
  simp only [dequantize, residual, spreadSecond, BlockGrid.map, get_map, get_ofFn, if_true]

theorem get_wordResidual_luma (f : Factors) (c : Coefficients) (y x : Fin 4) :
    ((c.wordResidual f true).luma.get y).get x =
      Block.residual (replaceAt (Block.dequantize f.luma ((c.luma.get y).get x)) 0
        ((WordBlock.ofBlock (Block.dequantize f.second c.second)).inverseWalsh.toBlock.get
          (Block.position y x))) := by
  simp only [wordResidual, get_ofFn, if_true, WordBlock.replaceAt_ofBlock,
    Block.residual_eq_inverseCosine, Block.inverseCosine_eq_words, WordBlock.toBlock, get_map]

theorem residual_eq_words_iff (f : Factors) (hasSecond : Bool) (c : Coefficients) :
    (c.dequantize f hasSecond).residual = c.wordResidual f hasSecond ↔
      (hasSecond = true → ∀ y x, 8 ∣ (Block.dequantize f.second c.second).walshExcess y x) := by
  have chroma (g : BlockGrid 2) := map_residual_eq_words f.chroma g
  have luma : (c.dequantize f hasSecond).residual.luma = (c.wordResidual f hasSecond).luma ↔
      (hasSecond = true → ∀ y x, 8 ∣ (Block.dequantize f.second c.second).walshExcess y x) := by
    cases hasSecond with
    | false =>
      refine ⟨fun _ second => absurd second Bool.false_ne_true, fun _ => ?_⟩
      refine (map_residual_eq_words f.luma c.luma).trans (BlockGrid.ext fun y x => ?_)
      simp only [wordResidual, BlockGrid.map, get_map, get_ofFn, Bool.false_eq_true, if_false]
    | true =>
      have entry (y x : Fin 4) :
          ((c.dequantize f true).residual.luma.get y).get x =
              ((c.wordResidual f true).luma.get y).get x ↔
            8 ∣ (Block.dequantize f.second c.second).walshExcess y x := by
        rw [get_residual_luma, get_wordResidual_luma]
        exact Block.residual_spread_iff _ _ y x
      constructor
      · intro same _ y x
        exact (entry y x).mp (by rw [same])
      · intro each
        exact BlockGrid.ext fun y x => (entry y x).mpr (each rfl y x)
  rw [← luma]
  constructor
  · intro same
    rw [same]
  · intro same
    exact Residual.ext_planes same (chroma c.cb) (chroma c.cr)

end Coefficients

/-- The cosine transform is that of words. The Walsh-Hadamard transform, and with it the residual
    of a macroblock that has a second-order block, is that of words exactly where the excess of its
    columns over words is a multiple of eight in every row sum. -/
theorem transforms_in_words (b : Block) (f : Factors) (hasSecond : Bool) (c : Coefficients) :
    b.inverseCosine = (WordBlock.ofBlock b).inverseCosine.toBlock ∧
      (b.inverseWalsh = (WordBlock.ofBlock b).inverseWalsh.toBlock ↔
        ∀ y x, 8 ∣ b.walshExcess y x) ∧
      ((c.dequantize f hasSecond).residual = c.wordResidual f hasSecond ↔
        (hasSecond = true →
          ∀ y x, 8 ∣ (Block.dequantize f.second c.second).walshExcess y x)) :=
  ⟨b.inverseCosine_eq_words, b.inverseWalsh_eq_words_iff, c.residual_eq_words_iff f hasSecond⟩

def Factors.coarsest : Factors := ofIndex 127 ⟨127, 0, 0, 0, 0, 0⟩

def Coefficients.steep : Coefficients :=
  { zero with second := replaceAt (replaceAt .zero 0 104) 4 74 }

/-- Its second-order block has 32656 above 32560, of whose sum a word keeps -320. -/
theorem steep_columns_leave_words :
    Block.inverseWalsh (Block.dequantize Factors.coarsest.second Coefficients.steep.second) ≠
        (WordBlock.inverseWalsh (WordBlock.ofBlock
          (Block.dequantize Factors.coarsest.second Coefficients.steep.second))).toBlock ∧
      (Coefficients.steep.dequantize Factors.coarsest true).residual ≠
        Coefficients.steep.wordResidual Factors.coarsest true := by
  decide +kernel

end Vp8
