import Vp8.Prediction.Macroblock
import Vp8.Proofs.Checked
import Vp8.Proofs.Residual.Lines
import Vp8.Proofs.Residual.Magnitude

/-!
Residuals in 32-bit arithmetic. Every sum, difference and product on the way from coefficients to
pixels is taken as a signed word or not at all, and none of them ever fails: factors are small next
to what a token stands for, and the transforms start from 16-bit words.
-/
namespace Vp8

namespace Word

def of? (x : Int) : Option Int := demand (-2147483648 ≤ x ∧ x ≤ 2147483647) fun _ => x

def add? (x y : Int) : Option Int := of? (x + y)

def sub? (x y : Int) : Option Int := of? (x - y)

def mul? (x y : Int) : Option Int := of? (x * y)

variable {x y : Int}

theorem add?_eq (fits : -2147483648 ≤ x + y ∧ x + y ≤ 2147483647) : add? x y = some (x + y) :=
  demand_eq fits _

theorem sub?_eq (fits : -2147483648 ≤ x - y ∧ x - y ≤ 2147483647) : sub? x y = some (x - y) :=
  demand_eq fits _

theorem mul?_eq (fits : -2147483648 ≤ x * y ∧ x * y ≤ 2147483647) : mul? x y = some (x * y) :=
  demand_eq fits _

end Word

open Word

namespace Line

structure Within (n : Nat) (l : Line) : Prop where
  x0 : -n ≤ l.x0 ∧ l.x0 ≤ n
  x1 : -n ≤ l.x1 ∧ l.x1 ≤ n
  x2 : -n ≤ l.x2 ∧ l.x2 ≤ n
  x3 : -n ≤ l.x3 ∧ l.x3 ≤ n

def map? (f? : Int → Option Int) (l : Line) : Option Line := do
  return ⟨← f? l.x0, ← f? l.x1, ← f? l.x2, ← f? l.x3⟩

def scaleSine? (x : Int) : Option Int := do
  return (← mul? x 35468) / 65536

def scaleCosine? (x : Int) : Option Int := do
  add? x ((← mul? x 20091) / 65536)

def cosine? (l : Line) : Option Line := do
  let a ← add? l.x0 l.x2
  let b ← sub? l.x0 l.x2
  let c ← sub? (← scaleSine? l.x1) (← scaleCosine? l.x3)
  let d ← add? (← scaleCosine? l.x1) (← scaleSine? l.x3)
  return ⟨← add? a d, ← add? b c, ← sub? b c, ← sub? a d⟩

def walsh? (l : Line) : Option Line := do
  let a ← add? l.x0 l.x3
  let b ← add? l.x1 l.x2
  let c ← sub? l.x1 l.x2
  let d ← sub? l.x0 l.x3
  return ⟨← add? a b, ← add? c d, ← sub? a b, ← sub? d c⟩

def eighth? (offset x : Int) : Option Int := do
  return wrap16 ((← add? x offset) / 8)

variable {n : Nat} {l : Line} {x : Int}

theorem map?_eq {f? : Int → Option Int} {f : Int → Int} (within : l.Within n)
    (each : ∀ x : Int, -n ≤ x ∧ x ≤ n → f? x = some (f x)) : l.map? f? = some (l.map f) := by
  unfold map?
  rw [each _ within.x0, each _ within.x1, each _ within.x2, each _ within.x3]
  rfl

theorem scaleSine?_eq (word : -32768 ≤ x ∧ x ≤ 32768) : scaleSine? x = some (scaleSine x) := by
  unfold scaleSine?
  rw [mul?_eq (by omega)]
  rfl

theorem scaleSine_bounds (word : -32768 ≤ x ∧ x ≤ 32768) :
    -17734 ≤ scaleSine x ∧ scaleSine x ≤ 17734 := by
  unfold scaleSine
  omega

theorem scaleCosine?_eq (word : -32768 ≤ x ∧ x ≤ 32768) :
    scaleCosine? x = some (scaleCosine x) := by
  unfold scaleCosine?
  rw [mul?_eq (by omega), Option.bind_eq_bind, Option.bind_some]
  exact add?_eq (by omega)

theorem scaleCosine_bounds (word : -32768 ≤ x ∧ x ≤ 32768) :
    -42814 ≤ scaleCosine x ∧ scaleCosine x ≤ 42814 := by
  unfold scaleCosine
  omega

theorem cosine?_eq (within : l.Within 32768) : l.cosine? = some l.cosine := by
  obtain ⟨h0, h1, h2, h3⟩ := within
  have sine1 := scaleSine_bounds h1
  have sine3 := scaleSine_bounds h3
  have cosine1 := scaleCosine_bounds h1
  have cosine3 := scaleCosine_bounds h3
  unfold cosine?
  simp (disch := omega) only [add?_eq, sub?_eq, scaleSine?_eq, scaleCosine?_eq,
    Option.bind_eq_bind, Option.bind_some]
  rfl

theorem cosine_within (within : l.Within 32768) : l.cosine.Within 126084 := by
  obtain ⟨h0, h1, h2, h3⟩ := within
  have sine1 := scaleSine_bounds h1
  have sine3 := scaleSine_bounds h3
  have cosine1 := scaleCosine_bounds h1
  have cosine3 := scaleCosine_bounds h3
  constructor
  all_goals
    dsimp only [cosine]
    omega

theorem walsh?_eq (within : l.Within n) (fits : 4 * n ≤ 2147483647) :
    l.walsh? = some l.walsh := by
  obtain ⟨h0, h1, h2, h3⟩ := within
  unfold walsh?
  simp (disch := omega) only [add?_eq, sub?_eq, Option.bind_eq_bind, Option.bind_some]
  rfl

theorem walsh_within (within : l.Within n) : l.walsh.Within (4 * n) := by
  obtain ⟨h0, h1, h2, h3⟩ := within
  constructor
  all_goals
    dsimp only [walsh]
    omega

theorem eighth?_eq {offset : Int} (fits : -2147483648 ≤ x + offset ∧ x + offset ≤ 2147483647) :
    eighth? offset x = some (wrap16 ((x + offset) / 8)) := by
  unfold eighth?
  rw [add?_eq fits]
  rfl

theorem map_wrap16_within (l : Line) : (l.map wrap16).Within 32768 :=
  ⟨wrap16_bounds _, wrap16_bounds _, wrap16_bounds _, wrap16_bounds _⟩

end Line

namespace Block

def mapColumns? (f? : Line → Option Line) (b : Block) : Option Block := do
  let c0 ← f? (b.column 0)
  let c1 ← f? (b.column 1)
  let c2 ← f? (b.column 2)
  let c3 ← f? (b.column 3)
  return #v[c0.x0, c1.x0, c2.x0, c3.x0, c0.x1, c1.x1, c2.x1, c3.x1,
    c0.x2, c1.x2, c2.x2, c3.x2, c0.x3, c1.x3, c2.x3, c3.x3]

def mapRows? (f? : Line → Option Line) (b : Block) : Option Block := do
  let r0 ← f? (b.row 0)
  let r1 ← f? (b.row 1)
  let r2 ← f? (b.row 2)
  let r3 ← f? (b.row 3)
  return #v[r0.x0, r0.x1, r0.x2, r0.x3, r1.x0, r1.x1, r1.x2, r1.x3,
    r2.x0, r2.x1, r2.x2, r2.x3, r3.x0, r3.x1, r3.x2, r3.x3]

def inverseCosine? (b : Block) : Option Block := do
  let columns ← mapColumns? (fun l => do return (← l.cosine?).map wrap16) (b.map wrap16)
  mapRows? (fun l => do (← l.cosine?).map? (Line.eighth? 4)) columns

def inverseWalsh? (b : Block) : Option Block := do
  let columns ← mapColumns? Line.walsh? (b.map wrap16)
  mapRows? (fun l => do (← l.walsh?).map? (Line.eighth? 3)) columns

def residual? (b : Block) : Option Block := if isZero b then some zero else inverseCosine? b

def dequantize? (factors b : Block) : Option Block :=
  Vector.ofFnM fun i => mul? (b.get i) (factors.get i)

def addTo? (b : Block) (r c : Fin 4) (pixel : UInt8) : Option UInt8 := do
  return clampByte (← add? pixel.toNat (b.get (position r c)))

variable {n : Nat} {b : Block} {f : Line → Line} {f? : Line → Option Line}

theorem mapColumns?_eq (each : ∀ x, f? (b.column x) = some (f (b.column x))) :
    mapColumns? f? b = some (mapColumns f b) := by
  unfold mapColumns?
  rw [each 0, each 1, each 2, each 3]
  rfl

theorem mapRows?_eq (each : ∀ y, f? (b.row y) = some (f (b.row y))) :
    mapRows? f? b = some (mapRows f b) := by
  unfold mapRows?
  rw [each 0, each 1, each 2, each 3]
  rfl

def Within (n : Nat) (b : Block) : Prop := ∀ k, -n ≤ b.get k ∧ b.get k ≤ n

theorem Within.column (within : b.Within n) (x : Fin 4) : (b.column x).Within n :=
  ⟨within _, within _, within _, within _⟩

theorem Within.row (within : b.Within n) (y : Fin 4) : (b.row y).Within n :=
  ⟨within _, within _, within _, within _⟩

theorem mapColumns_within (each : ∀ x, (f (b.column x)).Within n) :
    (mapColumns f b).Within n := by
  intro k
  obtain ⟨y, x, rfl⟩ := position_surjective k
  obtain ⟨h0, h1, h2, h3⟩ := each x
  rw [get_mapColumns]
  fin_cases y
  · exact h0
  · exact h1
  · exact h2
  · exact h3

theorem map_wrap16_within (b : Block) : Within 32768 (b.map wrap16) := by
  intro k
  rw [get_map]
  exact wrap16_bounds _

theorem inverseCosine?_eq (b : Block) : b.inverseCosine? = some b.inverseCosine := by
  have words := map_wrap16_within b
  have columns : mapColumns? (fun l => do return (← l.cosine?).map wrap16) (b.map wrap16) =
      some (mapColumns (fun l => l.cosine.map wrap16) (b.map wrap16)) :=
    mapColumns?_eq fun x => by
      rw [Line.cosine?_eq (words.column x)]
      rfl
  -- the rows start from words again
  have stored : Within 32768 (mapColumns (fun l => l.cosine.map wrap16) (b.map wrap16)) :=
    mapColumns_within fun x => Line.map_wrap16_within _
  unfold inverseCosine? inverseCosine
  rw [columns, Option.bind_eq_bind, Option.bind_some]
  refine mapRows?_eq fun y => ?_
  rw [Line.cosine?_eq (stored.row y)]
  exact Line.map?_eq (Line.cosine_within (stored.row y)) fun x bounds =>
    Line.eighth?_eq (by omega)

theorem inverseWalsh?_eq (b : Block) : b.inverseWalsh? = some b.inverseWalsh := by
  have words := map_wrap16_within b
  have columns : mapColumns? Line.walsh? (b.map wrap16) =
      some (mapColumns Line.walsh (b.map wrap16)) :=
    mapColumns?_eq fun x => Line.walsh?_eq (words.column x) (by decide)
  -- the rows start from whole sums, and there is room for sixteen words in one
  have stored : Within (4 * 32768) (mapColumns Line.walsh (b.map wrap16)) :=
    mapColumns_within fun x => Line.walsh_within (words.column x)
  unfold inverseWalsh? inverseWalsh
  rw [columns, Option.bind_eq_bind, Option.bind_some]
  refine mapRows?_eq fun y => ?_
  rw [Line.walsh?_eq (stored.row y) (by decide)]
  exact Line.map?_eq (Line.walsh_within (stored.row y)) fun x bounds =>
    Line.eighth?_eq (by omega)

theorem inverseCosine_within (b : Block) : Within 32768 b.inverseCosine := by
  intro k
  obtain ⟨y, x, rfl⟩ := position_surjective k
  unfold inverseCosine
  rw [get_mapRows, Line.entry_map]
  exact wrap16_bounds _

theorem residual?_eq (b : Block) : b.residual? = some b.residual := by
  unfold residual? residual
  split
  · rfl
  · exact inverseCosine?_eq b

theorem get_dequantize (factors b : Block) (i : Fin 16) :
    (dequantize factors b).get i = b.get i * factors.get i := Vector.getElem_zipWith i.isLt

theorem dequantize?_eq {factors b : Block} (bounded : factors.IsFactors) (small : b.Small) :
    dequantize? factors b = some (dequantize factors b) := by
  have product (i : Fin 16) :
      mul? (b.get i) (factors.get i) = some (b.get i * factors.get i) := by
    have coefficient := small i
    have factor := bounded i
    have size : (b.get i * factors.get i).natAbs ≤ Token.maxMagnitude * 440 := by
      rw [Int.natAbs_mul]
      exact Nat.mul_le_mul coefficient (by omega)
    have largest : Token.maxMagnitude * 440 ≤ 2147483647 := by decide
    exact mul?_eq (by omega)
  unfold dequantize?
  rw [ofFnM_some product]
  refine congrArg some (ext_get fun i => ?_)
  rw [get_ofFn, get_dequantize]

theorem addTo?_eq {b : Block} (words : b.Within 32768) (r c : Fin 4) (pixel : UInt8) :
    b.addTo? r c pixel = some (b.addTo r c pixel) := by
  have residue := words (position r c)
  have byte := pixel.toNat_lt
  unfold addTo?
  rw [add?_eq (by omega)]
  rfl

end Block

def BlockGrid.map? {n : Nat} (f? : Block → Option Block) (g : BlockGrid n) :
    Option (BlockGrid n) :=
  Vector.ofFnM fun y => Vector.ofFnM fun x => f? ((g.get y).get x)

theorem BlockGrid.map?_eq {n : Nat} {f? : Block → Option Block} {f : Block → Block}
    {g : BlockGrid n} (each : g.All fun b => f? b = some (f b)) :
    g.map? f? = some (g.map f) := by
  unfold map?
  rw [ofFnM_some fun y => ofFnM_some fun x => each y x]
  refine congrArg some (ext_get fun y => ext_get fun x => ?_)
  rw [BlockGrid.map, get_map, get_map, get_ofFn, get_ofFn]

namespace Coefficients

def spreadSecond? (second : Block) (luma : BlockGrid 4) : Option (BlockGrid 4) := do
  let dcs ← Block.inverseWalsh? second
  return .ofFn fun y => .ofFn fun x =>
    replaceAt ((luma.get y).get x) 0 (dcs.get (Block.position y x))

def dequantize? (f : Factors) (hasSecond : Bool) (c : Coefficients) : Option Coefficients := do
  let luma ← BlockGrid.map? (Block.dequantize? f.luma) c.luma
  let cb ← BlockGrid.map? (Block.dequantize? f.chroma) c.cb
  let cr ← BlockGrid.map? (Block.dequantize? f.chroma) c.cr
  if hasSecond then
    let second ← Block.dequantize? f.second c.second
    return { second, luma := ← spreadSecond? second luma, cb, cr }
  else return { second := c.second, luma, cb, cr }

def residual? (c : Coefficients) : Option Residual := do
  return ⟨← c.luma.map? Block.residual?, ← c.cb.map? Block.residual?,
    ← c.cr.map? Block.residual?⟩

theorem dequantize?_eq {f : Factors} {c : Coefficients} (bounded : f.Bounded) (small : c.Small)
    (hasSecond : Bool) : c.dequantize? f hasSecond = some (c.dequantize f hasSecond) := by
  have plane {n : Nat} {g : BlockGrid n} {factors : Block} (bounded : factors.IsFactors)
      (small : g.All Block.Small) :
      BlockGrid.map? (Block.dequantize? factors) g = some (g.map (Block.dequantize factors)) :=
    BlockGrid.map?_eq (small.mono fun b small => Block.dequantize?_eq bounded small)
  unfold dequantize? dequantize
  rw [plane bounded.luma small.luma, plane bounded.chroma small.cb, plane bounded.chroma small.cr]
  cases hasSecond with
  | false => rfl
  | true =>
    have second := Block.dequantize?_eq bounded.second small.second
    simp only [spreadSecond?, second, Block.inverseWalsh?_eq, Option.bind_eq_bind,
      Option.bind_some, if_true]
    rfl

theorem residual?_eq (c : Coefficients) : c.residual? = some c.residual := by
  have plane {n : Nat} (g : BlockGrid n) : g.map? Block.residual? = some (g.map Block.residual) :=
    BlockGrid.map?_eq fun y x => Block.residual?_eq _
  unfold residual?
  rw [plane, plane, plane]
  rfl

end Coefficients

/-- Coefficients and factors are small, so that no number on the way to the pixels is larger than a
    signed word of 32 bits. -/
theorem residual_arithmetic_fits :
    (∀ (probs : BandProbs) (context : Fin 3) (first : Fin 17) (r : BoolReader) (i : Fin 16),
      let block := ((Block.read probs context first).read r).1.1
      (block.get (Block.zigzag.get i)).natAbs ≤ 2114 ∧
        (i.val < first.val → block.get (Block.zigzag.get i) = 0)) ∧
    (∀ (cols : Nat) (t : TokenContext cols) (probs : CoefficientProbs) (c : Fin cols)
        (r : BoolReader),
      ((t.read probs c true).read r).1.1.1.luma.All fun b => b.get 0 = 0) ∧
    (∀ (indices : QuantizerIndices) (seg : Segmentation) (id : Fin 4),
      ((Factors.ofSegments indices seg).get id).Bounded) ∧
    (∀ (cols : Nat) (t : TokenContext cols) (probs : CoefficientProbs) (c : Fin cols)
        (hasSecond : Bool) (r : BoolReader) (indices : QuantizerIndices) (seg : Segmentation)
        (id : Fin 4),
      let coefficients := ((t.read probs c hasSecond).read r).1.1.1
      let f := (Factors.ofSegments indices seg).get id
      coefficients.dequantize? f hasSecond = some (coefficients.dequantize f hasSecond)) ∧
    (∀ c : Coefficients, c.residual? = some c.residual) ∧
    (∀ b : Block, b.inverseWalsh? = some b.inverseWalsh) ∧
    (∀ b : Block, b.inverseCosine? = some b.inverseCosine) ∧
    ∀ (b : Block) (y x : Fin 4) (pixel : UInt8),
      b.inverseCosine.addTo? y x pixel = some (b.inverseCosine.addTo y x pixel) := by
  refine ⟨fun probs context first r i => ?_, fun cols t probs c r => ?_,
    Factors.ofSegments_bounded, fun cols t probs c hasSecond r indices seg id => ?_,
    Coefficients.residual?_eq, Block.inverseWalsh?_eq, Block.inverseCosine?_eq,
    fun b => Block.addTo?_eq b.inverseCosine_within⟩
  · have stored := (Block.read_stored probs context first).read r
    exact ⟨stored.small _, fun front => stored.front (by omega)⟩
  · exact ((t.read_small probs c true).read r).2 rfl
  · exact Coefficients.dequantize?_eq (Factors.ofSegments_bounded indices seg id)
      ((t.read_small probs c hasSecond).read r).1 hasSecond

end Vp8
