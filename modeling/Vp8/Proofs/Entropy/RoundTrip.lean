import Vp8.Entropy.Tree
import Vp8.Proofs.Entropy.Checked
import Vp8.Proofs.Entropy.Coded
import Vp8.Proofs.Entropy.Register
import Vp8.Proofs.Entropy.Window

/-!
Reading gives back what was written. A coded value is a tree and a run of choices is a path in it; a
reader that is given the bytes of the run walks along that path, and it never needs more data than
there is.
-/
namespace Vp8

theorem mod_two_pow_succ (value width : Nat) :
    value % 2 ^ (width + 1) = (value.testBit width).toNat * 2 ^ width + value % 2 ^ width := by
  rw [Nat.mod_pow_succ, Nat.add_comm, Nat.mul_comm, Nat.testBit_eq_decide_div_mod_eq]
  congr 2
  rcases Nat.mod_two_eq_zero_or_one (value / 2 ^ width) with bit | bit <;> simp [bit]

/-- The choices lead through the tree to a value. -/
inductive Coded.Path {α : Type} : Coded α → List Choice → α → Prop where
  | value (a : α) : Path (.value a) [] a
  | choice {prob : UInt8} {next : Bool → Coded α} {cs : List Choice} {a : α} (bit : Bool)
      (rest : Path (next bit) cs a) : Path (.choice prob next) (⟨prob, bit⟩ :: cs) a

namespace Coded

variable {α β : Type}

theorem Path.congr {t : Coded α} {cs : List Choice} {a b : α} (path : t.Path cs a) (same : a = b) :
    t.Path cs b :=
  same ▸ path

theorem Path.bind {t : Coded α} {f : α → Coded β} {cs ds : List Choice} {a : α} {b : β}
    (path : t.Path cs a) (rest : (f a).Path ds b) : (t >>= f).Path (cs ++ ds) b := by
  induction path with
  | value a => exact rest
  | choice bit tail ih => exact .choice bit (ih rest)

theorem Path.map {t : Coded α} {cs : List Choice} {a : α} (path : t.Path cs a) (f : α → β) :
    (do return f (← t)).Path cs (f a) := by
  have whole := path.bind (f := fun a => (return f a)) (.value (f a))
  rwa [List.append_nil] at whole

theorem Path.mapM {ι : Type} {f : ι → Coded α} {choices : ι → List Choice} {value : ι → α}
    {is : List ι} (each : ∀ i ∈ is, (f i).Path (choices i) (value i)) :
    (is.mapM f).Path (is.flatMap choices) (is.map value) := by
  induction is with
  | nil => exact .value []
  | cons i is ih =>
    rw [List.mapM_cons]
    apply (each i List.mem_cons_self).bind
    exact (ih fun j member => each j (List.mem_cons_of_mem _ member)).map (value i :: ·)

theorem Path.foldlM {n : Nat} {f : α → Fin n → Coded α} {choices : Fin n → List Choice}
    (I : Nat → α → Prop)
    (step : ∀ k a, I k.val a → ∃ b, (f a k).Path (choices k) b ∧ I (k.val + 1) b) {a : α}
    (start : I 0 a) :
    ∃ b, ((List.finRange n).foldlM f a).Path ((List.finRange n).flatMap choices) b ∧ I n b := by
  induction n generalizing I a with
  | zero => exact ⟨a, .value a, start⟩
  | succ n ih =>
    obtain ⟨b, first, kept⟩ := step 0 a start
    have next (k : Fin n) (a : α) (before : I (k.val + 1) a) := step k.succ a before
    obtain ⟨c, rest, last⟩ := ih (fun k => I (k + 1)) next kept
    refine ⟨c, ?_, last⟩
    rw [List.finRange_succ, List.foldlM_cons, List.flatMap_cons, List.flatMap_map]
    apply first.bind
    rw [List.foldlM_map]
    exact rest

theorem readEach_path {n : Nat} (xs : Vector α n) {f : Fin n → α → Coded β} {ys : Vector β n}
    {choices : Fin n → List Choice} (each : ∀ i a, (f i a).Path (choices i) (ys.get i)) :
    (readEach xs f).Path ((List.finRange n).flatMap choices) ys := by
  have rest (left done : Nat) (all : left + done = n) (zs : Vector β (n - left))
      (known : ∀ k (lt : k < n - left), zs[k] = ys[k]) :
      (Vector.mapFinIdxM.map xs (fun i a h => f ⟨i, h⟩ a) left done all zs).Path
        (((List.finRange n).drop done).flatMap choices) ys := by
    induction left generalizing done with
    | zero =>
      have whole : zs.cast (Nat.sub_zero n) = ys := by
        apply Vector.ext
        intro k lt
        rw [Vector.getElem_cast, known]
      unfold Vector.mapFinIdxM.map
      rw [List.drop_eq_nil_of_le (by simp; omega), whole]
      exact .value ys
    | succ left ih =>
      unfold Vector.mapFinIdxM.map
      rw [List.drop_eq_getElem_cons (by simp; omega), List.getElem_finRange, List.flatMap_cons]
      apply (each _ _).bind
      apply ih
      intro k lt
      rw [Vector.getElem_cast, Vector.getElem_push]
      split
      · exact known _ _
      · have here : k = done := by omega
        subst here
        rfl
  apply rest n 0 rfl
  intro k lt
  omega

/-- A writer that goes along with a reader: each of its rounds leads from state to state and adds
    choices. -/
def writeEach {ι : Type} (round : α → ι → α × List Choice) : List ι → α → α × List Choice
  | [], a => (a, [])
  | i :: is, a =>
    let next := round a i
    let rest := writeEach round is next.1
    (rest.1, next.2 ++ rest.2)

theorem writeEach_fst {ι : Type} (round : α → ι → α × List Choice) (is : List ι) (a : α) :
    (writeEach round is a).1 = is.foldl (fun a i => (round a i).1) a := by
  induction is generalizing a with
  | nil => rfl
  | cons i is ih => exact ih _

theorem Path.writeEach {ι : Type} {f : α → ι → Coded α} {round : α → ι → α × List Choice}
    (each : ∀ a i, (f a i).Path (round a i).2 (round a i).1) (is : List ι) (a : α) :
    (is.foldlM f a).Path (writeEach round is a).2 (writeEach round is a).1 := by
  induction is generalizing a with
  | nil => exact .value a
  | cons i is ih =>
    rw [List.foldlM_cons]
    exact (each a i).bind (ih _)

theorem writeEach_invariant {n : Nat} {round : α → Fin n → α × List Choice} (I : Nat → α → Prop)
    (step : ∀ k a, I k.val a → I (k.val + 1) (round a k).1) {a : α} (start : I 0 a) :
    I n (writeEach round (List.finRange n) a).1 := by
  rw [writeEach_fst, ← Fin.foldl_eq_finRange_foldl]
  exact foldl_invariant I step start

/-- A reader whose data lies where the choices lead takes these choices. -/
theorem read_of_path {t : Coded α} {cs : List Choice} {a : α} (path : t.Path cs a)
    {r : BoolReader} {i : Interval} (m : Mirrors r i) (within : (i.putAll cs).Within r.data) :
    (t.read r).1 = a ∧ Mirrors (t.read r).2 (i.putAll cs) ∧ (t.read r).2.data = r.data := by
  induction path generalizing r i with
  | value a => exact ⟨rfl, m, rfl⟩
  | @choice prob next cs a bit tail ih =>
    obtain ⟨mirrors, data⟩ := BoolReader.read_mirrors m prob
    rw [Interval.putAll_cons] at within ⊢
    have inner : (i.put ⟨prob, bit⟩).Within r.data :=
      Interval.within_of_putAll (Interval.put_scaled m.scaled _) within
    have side := (Interval.within_of_put m.scaled inner).2
    have same : (r.read prob).1 = bit := (BoolReader.read_bit m prob).trans side.symm
    rw [same] at mirrors
    rw [← data] at within
    have step := ih mirrors within
    rw [data] at step
    rw [read_choice, same]
    exact step

/-- A written path is read back, and without an overrun. -/
theorem read_encodeChoices {t : Coded α} {cs : List Choice} {a : α} (path : t.Path cs a) :
    (t.read (.ofBytes (encodeChoices cs))).1 = a ∧
      (t.read (.ofBytes (encodeChoices cs))).2.overrun = false := by
  have tracks := BoolWriter.putAll_tracks BoolWriter.empty_tracks cs
  obtain ⟨low, enough⟩ := BoolWriter.finish_holds tracks
  change leadingBits (encodeChoices cs) _ = _ at low
  change _ ≤ 8 * (encodeChoices cs).size at enough
  obtain ⟨start, data⟩ := BoolReader.ofBytes_mirrors (encodeChoices cs)
  have within : (Interval.empty.putAll cs).Within (encodeChoices cs) := by
    have := tracks.scaled.1
    unfold Interval.Within
    omega
  obtain ⟨value, mirrors, data'⟩ := read_of_path path start (data.symm ▸ within)
  refine ⟨value, ?_⟩
  unfold BoolReader.overrun
  rw [data', data, mirrors.shifts_eq]
  exact decide_eq_false (by omega)

theorem flag_path (bit : Bool) : flag.Path [.flag bit] bit := .choice bit (.value bit)

theorem literalFrom_path (value width : Nat) {high : Nat} (word : high < 2 ^ 32) :
    (literalFrom high width).Path (Choice.literal value width)
      ((high * 2 ^ width + value % 2 ^ width) % 2 ^ 32) := by
  induction width generalizing high with
  | zero =>
    rw [Nat.pow_zero, Nat.mod_one, Nat.mul_one, Nat.add_zero, Nat.mod_eq_of_lt word]
    exact .value high
  | succ width ih =>
    have small : (2 * high + (value.testBit width).toNat) % 4294967296 < 2 ^ 32 :=
      Nat.mod_lt _ (by decide)
    have tail := ih small
    have total : (high * 2 ^ (width + 1) + value % 2 ^ (width + 1)) % 2 ^ 32 =
        ((2 * high + (value.testBit width).toNat) % 4294967296 * 2 ^ width +
          value % 2 ^ width) % 2 ^ 32 := by
      have word : (2 * high + (value.testBit width).toNat) % 4294967296 * 2 ^ width % 2 ^ 32 =
          (2 * high + (value.testBit width).toNat) * 2 ^ width % 2 ^ 32 := Nat.mod_mul_mod _ _ _
      rw [mod_two_pow_succ value, ← Nat.mod_add_mod (_ % 4294967296 * _), word, Nat.mod_add_mod]
      congr 1
      ring
    rw [total]
    exact (flag_path _).bind tail

theorem literal_path {value width : Nat} (narrow : width ≤ 32) (fits : value < 2 ^ width) :
    (literal width).Path (Choice.literal value width) value := by
  have path := literalFrom_path value width (show 0 < 2 ^ 32 by decide)
  have word : 2 ^ width ≤ 2 ^ 32 := Nat.pow_le_pow_right (by decide) narrow
  rw [Nat.zero_mul, Nat.zero_add, Nat.mod_eq_of_lt fits, Nat.mod_eq_of_lt (by omega)] at path
  exact path

theorem sign_path (prob : UInt8) (value : Int) :
    (do if ← bool prob then return -(value.natAbs : Int) else return (value.natAbs : Int)).Path
      [⟨prob, decide (value < 0)⟩] value := by
  apply Path.choice
  by_cases negative : value < 0
  · have value_eq : -(value.natAbs : Int) = value := by omega
    simp only [negative, decide_true, value_eq]
    exact .value value
  · have value_eq : (value.natAbs : Int) = value := by omega
    simp only [negative, decide_false, value_eq]
    exact .value value

theorem signed_path {value : Int} {width : Nat} (narrow : width ≤ 31)
    (fits : value.natAbs < 2 ^ width) :
    (signed width).Path (Choice.signed value width) value := by
  have word : 2 ^ width ≤ 2 ^ 31 := Nat.pow_le_pow_right (by decide) narrow
  have magnitude : (Int.ofNat value.natAbs).bmod 4294967296 = value.natAbs := by
    rw [Int.ofNat_eq_natCast, Int.bmod_eq_of_le (by omega) (by omega)]
  apply (literal_path (by omega) fits).bind
  dsimp only
  rw [magnitude]
  exact sign_path 128 value

theorem optionalSigned_path {value : Int} {width : Nat} (narrow : width ≤ 31)
    (fits : value.natAbs < 2 ^ width) :
    (optionalSigned width).Path (Choice.optionalSigned value width) value := by
  unfold Choice.optionalSigned
  split
  · rename_i zero
    rw [zero]
    exact (flag_path false).bind (.value 0)
  · exact (flag_path true).bind (signed_path narrow fits)

end Coded

namespace CodeTree

variable {t : CodeTree} {n start value : Nat}

theorem pathWithin?_succ {limit i : Nat} {ds : List (Nat × Bool)}
    (found : t.pathWithin? value (limit + 1) i = some ds) :
    ∃ bit rest, ds = (i, bit) :: rest ∧
      if 0 < t.entry i bit then t.pathWithin? value limit (t.entry i bit).toNat = some rest
      else leaf (t.entry i bit) = value ∧ rest = [] := by
  unfold pathWithin? at found
  rw [Option.orElse_eq_orElse, Option.orElse_eq_or, Option.or_eq_some_iff] at found
  rcases found with branch | ⟨_, branch⟩
  all_goals
    dsimp only at branch
    split at branch
    · rename_i on
      obtain ⟨rest, tail, rfl⟩ := Option.map_eq_some_iff.mp branch
      exact ⟨_, rest, rfl, by rwa [if_pos on]⟩
    · rename_i last
      split at branch
      · rename_i here
        obtain rfl := Option.some.inj branch
        exact ⟨_, [], rfl, by rw [if_neg last]; exact ⟨here, rfl⟩⟩
      · contradiction

theorem readWithin_path {limit i : Nat} {ds : List (Nat × Bool)}
    (found : t.pathWithin? value limit i = some ds) (probs : Array UInt8) :
    (t.readWithin probs limit i).Path
      (ds.map fun (pair, bit) => ⟨probAt probs (pair / 2), bit⟩) value := by
  induction limit generalizing i ds with
  | zero => contradiction
  | succ limit ih =>
    obtain ⟨bit, rest, rfl, behind⟩ := pathWithin?_succ found
    apply Coded.Path.choice bit
    dsimp only
    split at behind
    · rename_i on
      rw [if_pos on]
      exact ih behind
    · rename_i last
      obtain ⟨rfl, rfl⟩ := behind
      rw [if_neg last]
      exact .value _

theorem read_path (held : (t.path? value start).isSome) (probs : Vector UInt8 n)
    (fits : t.Fits n start) :
    (t.read probs start fits).Path (t.choices probs.toArray value start) value := by
  obtain ⟨ds, found⟩ := Option.isSome_iff_exists.mp held
  unfold choices
  rw [found]
  exact readWithin_path found probs.toArray

end CodeTree

inductive Field where
  | bool (prob : UInt8)
  | flag
  | literal (width : Nat)
  | signed (width : Nat)
  | optionalSigned (width : Nat)
  deriving DecidableEq, Repr

namespace Field

def Value : Field → Type
  | bool _ | flag => Bool
  | literal _ => Nat
  | signed _ | optionalSigned _ => Int

def Admits : (f : Field) → f.Value → Prop
  | bool _, _ | flag, _ => True
  | literal width, (value : Nat) => width ≤ 32 ∧ value < 2 ^ width
  | signed width, (value : Int) | optionalSigned width, (value : Int) =>
    width ≤ 31 ∧ value.natAbs < 2 ^ width

def choices : (f : Field) → f.Value → List Choice
  | bool prob, bit => [⟨prob, bit⟩]
  | flag, bit => [.flag bit]
  | literal width, value => Choice.literal value width
  | signed width, value => Choice.signed value width
  | optionalSigned width, value => Choice.optionalSigned value width

def read : (f : Field) → Coded f.Value
  | bool prob => Coded.bool prob
  | flag => Coded.flag
  | literal width => Coded.literal width
  | signed width => Coded.signed width
  | optionalSigned width => Coded.optionalSigned width

theorem read_path {f : Field} {value : f.Value} (admitted : f.Admits value) :
    f.read.Path (f.choices value) value := by
  cases f with
  | bool prob => exact .choice value (.value value)
  | flag => exact Coded.flag_path value
  | literal width => exact Coded.literal_path admitted.1 admitted.2
  | signed width => exact Coded.signed_path admitted.1 admitted.2
  | optionalSigned width => exact Coded.optionalSigned_path admitted.1 admitted.2

end Field

structure Item where
  field : Field
  value : field.Value

namespace Item

def write (items : List Item) : ByteArray :=
  encodeChoices (items.flatMap fun item => item.field.choices item.value)

def readAll : List Field → Coded (List Item)
  | [] => return []
  | field :: fields => do
    let value ← field.read
    let items ← readAll fields
    return ⟨field, value⟩ :: items

theorem readAll_path {items : List Item}
    (admitted : ∀ item ∈ items, item.field.Admits item.value) :
    (readAll (items.map field)).Path
      (items.flatMap fun item => item.field.choices item.value) items := by
  induction items with
  | nil => exact .value []
  | cons item items ih =>
    have tail := ih fun other member => admitted other (List.mem_cons_of_mem _ member)
    have rest := tail.bind (f := fun items => (return item :: items)) (.value (item :: items))
    rw [List.append_nil] at rest
    exact (Field.read_path (admitted item List.mem_cons_self)).bind rest

/-- Reading the fields of written items gives back the items, and needs no more data than there
    is. -/
theorem read_written (items : List Item)
    (admitted : ∀ item ∈ items, item.field.Admits item.value) :
    let done := (readAll (items.map field)).read (.ofBytes (write items))
    done.1 = items ∧ done.2.overrun = false :=
  Coded.read_encodeChoices (readAll_path admitted)

def mixed : List Item :=
  [⟨.bool 255, true⟩, ⟨.bool 0, false⟩, ⟨.flag, true⟩, ⟨.literal 32, (4294967295 : Nat)⟩,
    ⟨.signed 6, (-17 : Int)⟩, ⟨.optionalSigned 31, (2147483647 : Int)⟩,
    ⟨.optionalSigned 4, (0 : Int)⟩]

theorem read_written_mixed :
    (∀ item ∈ mixed, item.field.Admits item.value) ∧
      let done := (readAll (mixed.map field)).read (.ofBytes (write mixed))
      done.1 = mixed ∧ done.2.overrun = false := by
  have admitted : ∀ item ∈ mixed, item.field.Admits item.value := by simp [mixed, Field.Admits]
  exact ⟨admitted, read_written mixed admitted⟩

end Item

end Vp8
