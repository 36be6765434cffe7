import Mathlib.Data.List.Nodup
import Vp8.Macroblock.Modes
import Vp8.Proofs.Entropy.Exact
import Vp8.Proofs.Entropy.RoundTrip
import Vp8.Proofs.Entropy.Tree
import Vp8.Residual.Token

/-!
Trees as codes. The search finds a path to every leaf that can be reached, and to no other. A walk
ends at such a leaf whatever bits it meets, and what was written along a path is read back, in
whichever trees the values before and after it are coded. Entries may lead to one pair from several
places, and walks may start in the middle. In the trees of the format no leaf occurs twice, and each
has one path only.
-/
namespace Vp8

namespace CodeTree

abbrev IsPair (t : CodeTree) (i : Nat) : Prop := i % 2 = 0 ∧ i < t.entries.size

abbrev WellFormed (t : CodeTree) : Prop :=
  t.entries.size % 2 = 0 ∧ ∀ i < t.entries.size, i % 2 = 0 → ∀ bit, 0 < t.entry i bit →
    t.IsPair (t.entry i bit).toNat ∧ i < (t.entry i bit).toNat

/-- The decisions, each with the pair it is taken at, lead from a pair to a leaf. -/
inductive Leads (t : CodeTree) : (i : Nat) → List (Nat × Bool) → (value : Nat) → Prop where
  | last {i : Nat} {bit : Bool} {entry : Int} (there : t.entries[i + bit.toNat]? = some entry)
    (ends : entry ≤ 0) : Leads t i [(i, bit)] (leaf entry)
  | on {i : Nat} {bit : Bool} {entry : Int} {ds : List (Nat × Bool)} {value : Nat}
    (there : t.entries[i + bit.toNat]? = some entry) (on : 0 < entry)
    (rest : Leads t entry.toNat ds value) : Leads t i ((i, bit) :: ds) value

structure Walk where
  decisions : List (Nat × Bool)
  value : Nat

def branch (t : CodeTree) (i : Nat) (bit : Bool) (behind : Nat → List Walk) : List Walk :=
  let next := t.entry i bit
  if 0 < next then (behind next.toNat).map fun walk => ⟨(i, bit) :: walk.decisions, walk.value⟩
  else [⟨[(i, bit)], leaf next⟩]

def walks (t : CodeTree) : (limit : Nat) → (i : Nat) → List Walk
  | 0, _ => []
  | limit + 1, i => t.branch i false (t.walks limit) ++ t.branch i true (t.walks limit)

def leaves (t : CodeTree) : List Nat := (t.entries.toList.filter (· ≤ 0)).map leaf

/-- The search takes the first walk that ends at the leaf it looks for. -/
theorem pathWithin?_eq (t : CodeTree) (value limit i : Nat) :
    t.pathWithin? value limit i =
      ((t.walks limit i).find? fun walk => walk.value = value).map Walk.decisions := by
  induction limit generalizing i with
  | zero => rfl
  | succ limit ih =>
    have side (bit : Bool) :
        (if 0 < t.entry i bit then
            (t.pathWithin? value limit (t.entry i bit).toNat).map ((i, bit) :: ·)
          else if leaf (t.entry i bit) = value then some [(i, bit)] else none) =
        ((t.branch i bit (t.walks limit)).find? fun walk => walk.value = value).map
          Walk.decisions := by
      unfold branch
      dsimp only
      split
      · rw [ih, List.find?_map, Option.map_map, Option.map_map]
        rfl
      · by_cases here : leaf (t.entry i bit) = value <;> simp [here]
    unfold pathWithin? walks
    dsimp only
    rw [side, side, List.find?_append, Option.orElse_eq_orElse, Option.orElse_eq_or, Option.map_or]

theorem mem_branch_iff {t : CodeTree} {i : Nat} {bit : Bool} {behind : Nat → List Walk}
    {walk : Walk} : walk ∈ t.branch i bit behind ↔
      (0 < t.entry i bit ∧ ∃ rest ∈ behind (t.entry i bit).toNat,
        walk = ⟨(i, bit) :: rest.decisions, rest.value⟩) ∨
      (t.entry i bit ≤ 0 ∧ walk = ⟨[(i, bit)], leaf (t.entry i bit)⟩) := by
  unfold branch
  dsimp only
  split
  · rename_i on
    simp only [List.mem_map, on, Int.not_le.mpr on, true_and, false_and, or_false, eq_comm]
  · rename_i last
    simp only [List.mem_singleton, last, Int.not_lt.mp last, false_and, true_and, false_or]

def choiceAt (probs : Array UInt8) (d : Nat × Bool) : Choice := ⟨probAt probs (d.1 / 2), d.2⟩

structure Ends (t : CodeTree) (start limit i : Nat) : Prop where
  behind : start ≤ i
  pair : i + 1 < t.entries.size
  enough : t.entries.size ≤ limit + i

section Fits

variable {t : CodeTree} {n start limit i : Nat}

theorem Ends.not_zero (ends : t.Ends start 0 i) : False := by
  have := ends.pair
  have := ends.enough
  omega

theorem Ends.entry?_eq (ends : t.Ends start limit i) (bit : Bool) :
    t.entries[i + bit.toNat]? = some (t.entry i bit) := by
  have := Bool.toNat_le bit
  have := ends.pair
  exact CodeTree.entry?_eq (by omega)

theorem Ends.entry_eq (ends : t.Ends start limit i) {bit : Bool} {entry : Int}
    (there : t.entries[i + bit.toNat]? = some entry) : t.entry i bit = entry :=
  Option.some.inj ((ends.entry?_eq bit).symm.trans there)

theorem Fits.ends (fits : t.Fits n start) (ends : t.Ends start (limit + 1) i) {bit : Bool}
    (on : 0 < t.entry i bit) : t.Ends start limit (t.entry i bit).toNat := by
  have small := Bool.toNat_le bit
  obtain ⟨behind, pair, enough⟩ := ends
  obtain ⟨later, there⟩ := fits.forward behind (by omega) on
  exact ⟨by omega, there, by omega⟩

theorem Fits.mem_walks_iff (fits : t.Fits n start) (ends : t.Ends start limit i) (walk : Walk) :
    walk ∈ t.walks limit i ↔ t.Leads i walk.decisions walk.value := by
  induction limit generalizing i walk with
  | zero => exact ends.not_zero.elim
  | succ limit ih =>
    rw [walks, List.mem_append, ← Bool.exists_bool (p := fun bit => walk ∈ t.branch i bit _)]
    constructor
    · rintro ⟨bit, member⟩
      rcases mem_branch_iff.mp member with ⟨on, rest, found, rfl⟩ | ⟨last, rfl⟩
      · exact .on (ends.entry?_eq bit) on ((ih (fits.ends ends on) rest).mp found)
      · exact .last (ends.entry?_eq bit) last
    · obtain ⟨ds, value⟩ := walk
      intro leads
      cases leads with
      | @last _ bit entry there last =>
        obtain rfl := ends.entry_eq there
        exact ⟨bit, mem_branch_iff.mpr (.inr ⟨last, rfl⟩)⟩
      | @on _ bit entry ds value there on rest =>
        obtain rfl := ends.entry_eq there
        have found := (ih (fits.ends ends on) ⟨ds, value⟩).mpr rest
        exact ⟨bit, mem_branch_iff.mpr (.inl ⟨on, _, found, rfl⟩)⟩

theorem Fits.leads_of_path (fits : t.Fits n start) (ends : t.Ends start limit i)
    {probs : Array UInt8} {cs : List Choice} {value : Nat}
    (path : (t.readWithin probs limit i).Path cs value) :
    ∃ ds, t.Leads i ds value ∧ cs = ds.map (choiceAt probs) := by
  induction limit generalizing i cs with
  | zero => exact ends.not_zero.elim
  | succ limit ih =>
    unfold readWithin at path
    cases path with
    | @choice _ _ cs _ bit rest =>
      dsimp only at rest
      split at rest
      · rename_i on
        obtain ⟨ds, leads, rfl⟩ := ih (fits.ends ends on) rest
        exact ⟨(i, bit) :: ds, .on (ends.entry?_eq bit) on leads, rfl⟩
      · rename_i last
        cases rest
        exact ⟨[(i, bit)], .last (ends.entry?_eq bit) (Int.not_lt.mp last), rfl⟩

theorem Fits.readWithin_congr (fits : t.Fits n start) {other : Nat} (ends : t.Ends start limit i)
    (ends' : t.Ends start other i) (probs : Array UInt8) :
    t.readWithin probs limit i = t.readWithin probs other i := by
  induction limit generalizing other i with
  | zero => exact ends.not_zero.elim
  | succ limit ih =>
    cases other with
    | zero => exact ends'.not_zero.elim
    | succ other =>
      unfold readWithin
      congr 1
      funext bit
      dsimp only
      split
      · rename_i on
        exact ih (fits.ends ends on) (fits.ends ends' on)
      · rfl

theorem Fits.start_ends (fits : t.Fits n start) {limit : Nat} (enough : t.entries.size ≤ limit) :
    t.Ends start limit start :=
  ⟨Nat.le_refl _, fits.1, Nat.le_add_right_of_le enough⟩

/-- A walk that may go on for long ends where the tree says that it must. -/
theorem read_eq_walk (probs : Vector UInt8 n) (fits : t.Fits n start) (r : BoolReader) :
    (t.read probs start fits).read r = t.walk probs.toArray start r := by
  unfold read walk
  have patient : t.entries.size ≤ t.patience r := by
    unfold patience
    omega
  rw [fits.readWithin_congr (fits.start_ends (Nat.le_refl _)) (fits.start_ends patient)]

theorem Leads.probability_known {i : Nat} {ds : List (Nat × Bool)} {value : Nat}
    (leads : t.Leads i ds value) (enough : t.entries.size ≤ 2 * n) : ∀ d ∈ ds, d.1 / 2 < n := by
  have known {i : Nat} {bit : Bool} {entry : Int}
      (there : t.entries[i + bit.toNat]? = some entry) : i / 2 < n := by
    obtain ⟨inside, _⟩ := Array.getElem?_eq_some_iff.mp there
    omega
  induction leads with
  | last there ends =>
    intro d member
    obtain rfl := List.mem_singleton.mp member
    exact known there
  | on there on rest ih =>
    intro d member
    rcases List.mem_cons.mp member with rfl | later
    · exact known there
    · exact ih d later

theorem Fits.length_lt (fits : t.Fits n start) {ds : List (Nat × Bool)} {value : Nat}
    (leads : t.Leads i ds value) (behind : start ≤ i) (pair : i + 1 < t.entries.size) :
    i + ds.length < t.entries.size := by
  induction leads with
  | last there ends => exact pair
  | @on i bit entry ds value there on rest ih =>
    have ends : t.Ends start t.entries.size i := ⟨behind, pair, Nat.le_add_right _ _⟩
    have small := Bool.toNat_le bit
    obtain rfl := ends.entry_eq there
    obtain ⟨later, there⟩ := fits.forward behind (by omega) on
    have rest := ih (by omega) there
    rw [List.length_cons]
    omega

theorem WellFormed.fits (wf : t.WellFormed) (pair : t.IsPair start)
    (enough : t.entries.size ≤ 2 * n) : t.Fits n start := by
  obtain ⟨even, inside⟩ := pair
  obtain ⟨paired, forward⟩ := wf
  refine ⟨by omega, enough, ?_⟩
  intro k _ on
  obtain ⟨i, bit, first, place⟩ : ∃ (i : Nat) (bit : Bool), i % 2 = 0 ∧ i + bit.toNat = k := by
    rcases Nat.mod_two_eq_zero_or_one k with left | right
    · exact ⟨k, false, left, rfl⟩
    · exact ⟨k - 1, true, by omega, Nat.sub_add_cancel (by omega)⟩
  have same : t.entry i bit = t.entries[k] := by
    unfold entry
    rw [place, Array.getElem?_eq_getElem k.isLt]
    rfl
  have small := Bool.toNat_le bit
  have step := forward i (by omega) first bit (lt_of_lt_of_eq on same.symm)
  rw [same] at step
  omega

end Fits

/-- The trees of the format: modes of luma in keyframes and in other frames, of chroma, of
    sub-blocks, segments, modes of inter prediction, shapes of splits, vectors of their parts, short
    vectors and tokens. -/
def formatTrees : List CodeTree :=
  [Mode.keyframeTree, Mode.intraTree, Mode.chromaTree, SubblockMode.tree, Macroblock.segmentTree,
    Mode.interTree, Split.tree, PartVector.tree, MotionVector.shortTree, Token.tree]

theorem formatTrees_checked : ∀ t ∈ formatTrees, t.WellFormed ∧ t.IsPair 0 ∧ t.leaves.Nodup ∧
    ((t.walks t.entries.size 0).map Walk.value).Nodup ∧
      t.leaves ⊆ (t.walks t.entries.size 0).map Walk.value := by
  decide

theorem formatTrees_unique {t : CodeTree} (member : t ∈ formatTrees) {value : Nat}
    (leaf : value ∈ t.leaves) : ∃! ds, t.Leads 0 ds value := by
  obtain ⟨wf, pair, _, once, all⟩ := formatTrees_checked t member
  have fits := wf.fits (n := t.entries.size) pair (by omega)
  have walks := fits.mem_walks_iff (fits.start_ends (Nat.le_refl _))
  obtain ⟨walk, found, rfl⟩ := List.mem_map.mp (all leaf)
  refine ⟨walk.decisions, (walks walk).mp found, ?_⟩
  intro ds leads
  have same := List.inj_on_of_nodup_map once ((walks ⟨ds, walk.value⟩).mpr leads) found rfl
  exact congrArg Walk.decisions same

end CodeTree

namespace Coded

theorem exists_path {α : Type} (t : Coded α) (r : BoolReader) :
    ∃ cs, t.Path cs (t.read r).1 ∧
      readBits BoolReader.read (cs.map Choice.prob) r = (cs.map Choice.bit, (t.read r).2) := by
  induction t generalizing r with
  | value a => exact ⟨[], .value a, rfl⟩
  | choice prob next ih =>
    obtain ⟨cs, path, bits⟩ := ih (r.read prob).1 (r.read prob).2
    refine ⟨⟨prob, (r.read prob).1⟩ :: cs, ?_, ?_⟩
    · rw [read_choice]
      exact .choice _ path
    · rw [read_choice, List.map_cons, List.map_cons, readBits_cons, bits]

end Coded

structure TreeCode where
  tree : CodeTree
  probs : Array UInt8
  start : Nat
  wellFormed : tree.WellFormed
  pair : tree.IsPair start
  enough : tree.entries.size ≤ 2 * probs.size

namespace TreeCode

variable (c : TreeCode)

def Leads (ds : List (Nat × Bool)) (value : Nat) : Prop := c.tree.Leads c.start ds value

def path? (value : Nat) : Option (List (Nat × Bool)) := c.tree.path? value c.start

def read (r : BoolReader) : Nat × BoolReader := c.tree.walk c.probs c.start r

def choices (value : Nat) : List Choice := c.tree.choices c.probs value c.start

def readAll : List TreeCode → BoolReader → List Nat × BoolReader
  | [], r => ([], r)
  | c :: cs, r =>
    let (value, r) := c.read r
    let (values, r) := readAll cs r
    (value :: values, r)

def writeAll (items : List (TreeCode × Nat)) : ByteArray :=
  encodeChoices (items.flatMap fun item => item.1.choices item.2)

theorem fits : c.tree.Fits c.probs.size c.start := c.wellFormed.fits c.pair c.enough

def coded : Coded Nat := c.tree.read c.probs.toVector c.start c.fits

theorem coded_read (r : BoolReader) : c.coded.read r = c.read r :=
  CodeTree.read_eq_walk c.probs.toVector c.fits r

theorem mem_walks_iff (walk : CodeTree.Walk) :
    walk ∈ c.tree.walks c.tree.entries.size c.start ↔ c.Leads walk.decisions walk.value :=
  c.fits.mem_walks_iff (c.fits.start_ends (Nat.le_refl _)) walk

theorem path?_leads {ds : List (Nat × Bool)} {value : Nat} (found : c.path? value = some ds) :
    c.Leads ds value := by
  unfold path? CodeTree.path? at found
  rw [CodeTree.pathWithin?_eq, Option.map_eq_some_iff] at found
  obtain ⟨walk, found, rfl⟩ := found
  obtain rfl : walk.value = value := by simpa using List.find?_some found
  exact (c.mem_walks_iff walk).mp (List.mem_of_find?_eq_some found)

theorem path?_isSome_iff (value : Nat) : (c.path? value).isSome ↔ ∃ ds, c.Leads ds value := by
  constructor
  · intro found
    obtain ⟨ds, found⟩ := Option.isSome_iff_exists.mp found
    exact ⟨ds, c.path?_leads found⟩
  · rintro ⟨ds, leads⟩
    have walk := (c.mem_walks_iff ⟨ds, value⟩).mpr leads
    unfold path? CodeTree.path?
    rw [CodeTree.pathWithin?_eq, Option.isSome_map, List.find?_isSome]
    exact ⟨_, walk, decide_eq_true rfl⟩

/-- A walk takes the decisions of a path, as the bits that it reads tell it to. -/
theorem read_leads (r : BoolReader) : ∃ ds, c.Leads ds (c.read r).1 ∧
    readBits BoolReader.read (ds.map fun d => probAt c.probs (d.1 / 2)) r =
      (ds.map Prod.snd, (c.read r).2) := by
  obtain ⟨cs, path, bits⟩ := c.coded.exists_path r
  obtain ⟨ds, leads, rfl⟩ := c.fits.leads_of_path (c.fits.start_ends (Nat.le_refl _)) path
  rw [coded_read] at leads bits
  refine ⟨ds, leads, ?_⟩
  rw [List.map_map, List.map_map] at bits
  exact bits

theorem coded_path {value : Nat} (held : ∃ ds, c.Leads ds value) :
    c.coded.Path (c.choices value) value :=
  CodeTree.read_path ((c.path?_isSome_iff value).mpr held) c.probs.toVector c.fits

theorem readAll_eq (cs : List TreeCode) (r : BoolReader) :
    readAll cs r = (cs.mapM coded).read r := by
  induction cs generalizing r with
  | nil => rfl
  | cons c cs ih =>
    rw [List.mapM_cons, Coded.read_bind, Coded.read_bind, coded_read, ← ih]
    rfl

/-- The search finds a path exactly to the leaves that can be reached. A walk ends, and it ends at
    one of these leaves; it looks for nothing beyond the table of probabilities. Leaves that are
    written one after another, each in a tree of its own, are read back. The trees of the format
    hold each leaf once, and there is one path to it. -/
theorem leaves_round_trip :
    (∀ (c : TreeCode) (value : Nat), ((c.path? value).isSome ↔ ∃ ds, c.Leads ds value) ∧
      ∀ ds, c.path? value = some ds → c.Leads ds value) ∧
    (∀ (c : TreeCode) (r : BoolReader), c.coded.read r = c.read r ∧
      ∃ ds, c.Leads ds (c.read r).1 ∧ ds.length < c.tree.entries.size ∧
        (∀ d ∈ ds, d.1 / 2 < c.probs.size) ∧
        readBits BoolReader.read (ds.map fun d => probAt c.probs (d.1 / 2)) r =
          (ds.map Prod.snd, (c.read r).2)) ∧
    (∀ items : List (TreeCode × Nat), (∀ item ∈ items, ∃ ds, item.1.Leads ds item.2) →
      let done := readAll (items.map Prod.fst) (.ofBytes (writeAll items))
      done.1 = items.map Prod.snd ∧ done.2.overrun = false) ∧
    ∀ t ∈ CodeTree.formatTrees, t.WellFormed ∧ t.leaves.Nodup ∧
      ∀ value ∈ t.leaves, ∃! ds, t.Leads 0 ds value := by
  refine ⟨?search, ?walk, ?trip, ?format⟩
  case search =>
    intro c value
    exact ⟨c.path?_isSome_iff value, fun _ => c.path?_leads⟩
  case walk =>
    intro c r
    obtain ⟨ds, leads, bits⟩ := c.read_leads r
    have short := c.fits.length_lt leads (Nat.le_refl _) c.fits.1
    exact ⟨c.coded_read r, ds, leads, by omega, leads.probability_known c.enough, bits⟩
  case trip =>
    intro items held
    have path : ((items.map Prod.fst).mapM coded).Path
        (items.flatMap fun item => item.1.choices item.2) (items.map Prod.snd) := by
      rw [List.mapM_map]
      exact Coded.Path.mapM fun item member => item.1.coded_path (held item member)
    rw [readAll_eq]
    exact Coded.read_encodeChoices path
  case format =>
    intro t member
    obtain ⟨wf, _, once, _⟩ := CodeTree.formatTrees_checked t member
    exact ⟨wf, once, fun value leaf => CodeTree.formatTrees_unique member leaf⟩

/-- Two entries lead to the last pair, so that leaf 0 has two paths. -/
def crossing : TreeCode where
  tree := ⟨#[2, 4, 4, -1, 0, -5]⟩
  probs := #[0, 255, 100]
  start := 0
  wellFormed := by decide
  pair := by decide
  enough := by decide

def insideBlock : TreeCode where
  tree := Token.tree
  probs := .replicate 11 200
  start := 2
  wellFormed := by decide
  pair := by decide
  enough := by decide

theorem crossing_leaves_round_trip :
    (∀ item ∈ [(crossing, 5), (insideBlock, 10), (crossing, 0), (insideBlock, 0), (crossing, 1)],
      ∃ ds, item.1.Leads ds item.2) ∧
    (readAll [crossing, insideBlock, crossing, insideBlock, crossing] (.ofBytes (writeAll
      [(crossing, 5), (insideBlock, 10), (crossing, 0), (insideBlock, 0), (crossing, 1)]))).1 =
        [5, 10, 0, 0, 1] := by
  obtain ⟨search, _, trip, _⟩ := leaves_round_trip
  have held : ∀ item ∈
      [(crossing, 5), (insideBlock, 10), (crossing, 0), (insideBlock, 0), (crossing, 1)],
      ∃ ds, item.1.Leads ds item.2 := by
    intro item member
    have found : (item.1.path? item.2).isSome := by
      revert item
      decide
    exact (search item.1 item.2).1.mp found
  exact ⟨held, (trip _ held).1⟩

end TreeCode

end Vp8
