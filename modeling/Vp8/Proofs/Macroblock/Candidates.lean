import Vp8.Macroblock.Candidates
import Vp8.Proofs.Checked

/-!
Neighbours and the candidates they make. The cells of a grid are looked up in one table that has a
row above them and a column to their left. However the neighbours of a macroblock vote, there are
at most three vectors besides zero, and no weight is above five.
-/
namespace Vp8

namespace Grid

variable {rows cols : Nat}

/-- The cells in raster order, below a row and to the right of a column of default ones. -/
def table (g : Grid rows cols) : Vector Macroblock ((rows + 1) * (cols + 1)) :=
  .ofFn fun i =>
    let r := i.val / (cols + 1)
    let c := i.val % (cols + 1)
    if 0 < r ∧ 0 < c then (g.at? (r - 1) (c - 1)).getD .default else .default

def place (cols r c : Nat) : Nat := (r + 1) * (cols + 1) + c + 1

def before? (g : Grid rows cols) (r c back : Nat) : Option Macroblock :=
  if back ≤ place cols r c then g.table[place cols r c - back]? else none

def get? (g : Grid rows cols) (r c : Nat) : Option Macroblock := g.before? r c 0

def above? (g : Grid rows cols) (r c : Nat) : Option Macroblock := g.before? r c (cols + 1)

def left? (g : Grid rows cols) (r c : Nat) : Option Macroblock := g.before? r c 1

def aboveLeft? (g : Grid rows cols) (r c : Nat) : Option Macroblock := g.before? r c (cols + 2)

def set? (g : Grid rows cols) (r : Fin rows) (c : Fin cols) (m : Macroblock) :
    Option (Grid rows cols) :=
  demand (place cols r c < (rows + 1) * (cols + 1)) fun _ => g.set r c m

theorem table_lt {u v : Nat} (row : u ≤ rows) (column : v ≤ cols) :
    u * (cols + 1) + v < (rows + 1) * (cols + 1) := by
  have below := Nat.mul_le_mul_right (cols + 1) row
  rw [Nat.add_mul, Nat.one_mul]
  omega

theorem table_cell (g : Grid rows cols) {u v : Nat} (row : u ≤ rows) (column : v ≤ cols) :
    g.table[u * (cols + 1) + v]? =
      some (if 0 < u ∧ 0 < v then (g.at? (u - 1) (v - 1)).getD .default else .default) := by
  have first : (u * (cols + 1) + v) / (cols + 1) = u := by
    rw [Nat.mul_comm, Nat.mul_add_div (Nat.succ_pos cols), Nat.div_eq_of_lt (by omega),
      Nat.add_zero]
  have second : (u * (cols + 1) + v) % (cols + 1) = v := by
    rw [Nat.mul_comm, Nat.mul_add_mod, Nat.mod_eq_of_lt (by omega)]
  rw [Vector.getElem?_eq_getElem (table_lt row column)]
  unfold table
  rw [Vector.getElem_ofFn]
  dsimp only
  rw [first, second]

/-- Going back by whole rows and by single cells, to a place with the numbers `u` and `v` in the
    table. -/
theorem before?_eq (g : Grid rows cols) {r c back : Nat} (u v : Nat) (row : u ≤ rows)
    (column : v ≤ cols) (there : u * (cols + 1) + v + back = place cols r c) :
    g.before? r c back =
      some (if inside : 0 < u ∧ 0 < v then g.get ⟨u - 1, by omega⟩ ⟨v - 1, by omega⟩
        else .default) := by
  have behind : place cols r c - back = u * (cols + 1) + v := by omega
  unfold before?
  rw [if_pos (by omega), behind, g.table_cell row column]
  split
  · rename_i inside
    have cell : g.at? (u - 1) (v - 1) = some (g.get ⟨u - 1, by omega⟩ ⟨v - 1, by omega⟩) :=
      dif_pos ⟨by omega, by omega⟩
    rw [cell]
    rfl
  · rfl

variable (g : Grid rows cols) (r : Fin rows) (c : Fin cols)

theorem get?_eq : g.get? r c = some (g.get r c) := by
  have cell : g.before? r c 0 = _ := g.before?_eq (r + 1) (c + 1) (by omega) (by omega) rfl
  rw [dif_pos (by omega)] at cell
  exact cell

theorem above?_eq : g.above? r c = some (g.above r c) := by
  have cell : g.before? r c (cols + 1) = _ :=
    g.before?_eq r (c + 1) (by omega) (by omega) (by unfold place; rw [Nat.add_mul]; omega)
  unfold Grid.above? Grid.above
  by_cases first : 0 < r.val
  · rw [cell, dif_pos ⟨first, Nat.succ_pos c⟩, dif_pos first]
    rfl
  · rw [cell, dif_neg (by omega), dif_neg first]

theorem left?_eq : g.left? r c = some (g.left r c) := by
  have cell : g.before? r c 1 = _ := g.before?_eq (r + 1) c (by omega) (by omega) rfl
  unfold Grid.left? Grid.left
  by_cases first : 0 < c.val
  · rw [cell, dif_pos ⟨Nat.succ_pos r, first⟩, dif_pos first]
    rfl
  · rw [cell, dif_neg (by omega), dif_neg first]

theorem aboveLeft?_eq : g.aboveLeft? r c = some (g.aboveLeft r c) := by
  have cell : g.before? r c (cols + 2) = _ :=
    g.before?_eq r c (by omega) (by omega) (by unfold place; rw [Nat.add_mul]; omega)
  unfold Grid.aboveLeft? Grid.aboveLeft
  rw [cell]

theorem set?_eq (m : Macroblock) : g.set? r c m = some (g.set r c m) := by
  apply demand_eq
  have inside : (r + 1) * (cols + 1) + (c + 1) < (rows + 1) * (cols + 1) :=
    table_lt (by omega) (by omega)
  unfold place
  omega

end Grid

namespace Candidates

def Tally.addNeighbour? (bias : SignBias) (reference : Reference) (t : Tally)
    (neighbour : Macroblock × Nat) : Option Tally :=
  let t := t.addNeighbour bias reference neighbour
  demand (t.found.length ≤ 3) fun _ => t

def search? (bias : SignBias) (reference : Reference) (neighbours : List (Macroblock × Nat)) :
    Option Candidates := do
  let _ ← neighbours.foldlM (Tally.addNeighbour? bias reference) ⟨0, []⟩
  return search bias reference neighbours

def neighbours? {rows cols : Nat} (g : Grid rows cols) (r c : Nat) :
    Option (List (Macroblock × Nat)) := do
  let above ← g.above? r c
  let left ← g.left? r c
  let aboveLeft ← g.aboveLeft? r c
  return [(above, 2), (left, 2), (aboveLeft, 1)]

def contextOf? (weight : Nat) : Option (Vector UInt8 4) := modeContexts[weight]?

def modeProbs? (c : Candidates) : Option (Vector UInt8 4) := do
  let zero ← contextOf? c.zeroWeight
  let nearest ← contextOf? c.nearestWeight
  let near ← contextOf? c.nearWeight
  let split ← contextOf? c.splitWeight
  return #v[zero.get 0, nearest.get 1, near.get 2, split.get 3]

def Tally.total (t : Tally) : Nat := t.found.foldr (fun v sum => v.2 + sum) t.zero

def weightOf (neighbours : List (Macroblock × Nat)) : Nat :=
  neighbours.foldr (fun n sum => n.2 + sum) 0

variable {bias : SignBias} {reference : Reference}

theorem Tally.add_length (t : Tally) (v : MotionVector) (weight : Nat) :
    (t.add v weight).found.length ≤ t.found.length + 1 := by
  unfold Tally.add
  split
  · exact Nat.le_succ _
  · split
    · simp only [List.length_cons, List.length_nil]
      omega
    · rename_i found
      split
      · rw [found]
        simp only [List.length_cons]
        omega
      · simp only [List.length_cons, Nat.le_refl]

theorem Tally.add_total (t : Tally) (v : MotionVector) (weight : Nat) :
    (t.add v weight).total = t.total + weight := by
  have more (start : Nat) (found : List (MotionVector × Nat)) :
      found.foldr (fun v sum => v.2 + sum) (start + weight) =
        found.foldr (fun v sum => v.2 + sum) start + weight := by
    induction found with
    | nil => rfl
    | cons v found ih => simp only [List.foldr_cons, ih, Nat.add_assoc]
  unfold Tally.add Tally.total
  split
  · exact more _ _
  · split
    · rename_i found
      simp only [found, List.foldr_cons, List.foldr_nil]
      omega
    · rename_i found
      split
      · simp only [found, List.foldr_cons]
        omega
      · simp only [List.foldr_cons]
        omega

theorem Tally.addNeighbour_length (t : Tally) (n : Macroblock × Nat) :
    (t.addNeighbour bias reference n).found.length ≤ t.found.length + 1 := by
  unfold Tally.addNeighbour
  dsimp only
  split
  · omega
  · exact t.add_length _ _

theorem Tally.addNeighbour_total (t : Tally) (n : Macroblock × Nat) :
    (t.addNeighbour bias reference n).total ≤ t.total + n.2 := by
  unfold Tally.addNeighbour
  dsimp only
  split
  · omega
  · rw [t.add_total]

theorem Tally.addNeighbours?_eq (t : Tally) (neighbours : List (Macroblock × Nat))
    (room : t.found.length + neighbours.length ≤ 3) :
    neighbours.foldlM (Tally.addNeighbour? bias reference) t =
      some (neighbours.foldl (Tally.addNeighbour bias reference) t) := by
  induction neighbours generalizing t with
  | nil => rfl
  | cons n neighbours ih =>
    have one : (t.addNeighbour bias reference n).found.length ≤ t.found.length + 1 :=
      t.addNeighbour_length n
    rw [List.length_cons] at room
    have added : t.addNeighbour? bias reference n = some (t.addNeighbour bias reference n) :=
      demand_eq (by omega) _
    rw [List.foldlM_cons, added]
    exact ih _ (by omega)

theorem Tally.addNeighbours_total (t : Tally) (neighbours : List (Macroblock × Nat)) :
    (neighbours.foldl (Tally.addNeighbour bias reference) t).total ≤
      t.total + weightOf neighbours := by
  induction neighbours generalizing t with
  | nil => exact Nat.le_refl _
  | cons n neighbours ih =>
    have one : (t.addNeighbour bias reference n).total ≤ t.total + n.2 := t.addNeighbour_total n
    have rest := ih (t.addNeighbour bias reference n)
    unfold weightOf at rest ⊢
    rw [List.foldl_cons, List.foldr_cons]
    omega

theorem Tally.zero_le (t : Tally) : t.zero ≤ t.total := by
  unfold Tally.total
  induction t.found with
  | nil => exact Nat.le_refl _
  | cons v found ih =>
    rw [List.foldr_cons]
    omega

theorem Tally.ranked_le (t : Tally) : t.ranked.1.2 ≤ t.total ∧ t.ranked.2.2 ≤ t.total := by
  have ordered (first second : MotionVector × Nat) (one : first.2 ≤ t.total)
      (other : second.2 ≤ t.total) :
      (if first.2 < second.2 then (second, first) else (first, second)).1.2 ≤ t.total ∧
        (if first.2 < second.2 then (second, first) else (first, second)).2.2 ≤ t.total := by
    split
    · exact ⟨other, one⟩
    · exact ⟨one, other⟩
  -- whichever vectors are chosen, their weights are summands of the total
  have all : t.total = t.found.foldr (fun v sum => v.2 + sum) t.zero := rfl
  unfold Tally.ranked
  dsimp only
  split
  · exact ordered (.zero, 0) (.zero, 0) (Nat.zero_le _) (Nat.zero_le _)
  · rename_i a found
    rw [found] at all
    exact ordered a (.zero, 0) (by rw [all, List.foldr_cons]; omega) (Nat.zero_le _)
  · rename_i b a found
    rw [found] at all
    simp only [List.foldr_cons, List.foldr_nil] at all
    exact ordered a b (by omega) (by omega)
  · rename_i c b a rest found
    rw [found] at all
    simp only [List.foldr_cons] at all
    apply ordered
    · dsimp only
      split
      · dsimp only
        omega
      · omega
    · dsimp only
      omega

theorem weightOfSplits_le (neighbours : List (Macroblock × Nat)) :
    weightOfSplits neighbours ≤ weightOf neighbours := by
  unfold weightOfSplits weightOf
  induction neighbours with
  | nil => exact Nat.le_refl _
  | cons n neighbours ih =>
    dsimp only at ih
    rw [List.foldr_cons, List.foldr_cons]
    dsimp only
    split <;> omega

variable {neighbours : List (Macroblock × Nat)}

/-- No weight that the search comes to is above that of all neighbours. -/
theorem search_weights (bias : SignBias) (reference : Reference)
    (neighbours : List (Macroblock × Nat)) :
    let c := search bias reference neighbours
    c.zeroWeight ≤ weightOf neighbours ∧ c.nearestWeight ≤ weightOf neighbours ∧
      c.nearWeight ≤ weightOf neighbours ∧ c.splitWeight ≤ weightOf neighbours := by
  have all : (neighbours.foldl (Tally.addNeighbour bias reference) ⟨0, []⟩).total ≤
      Tally.total ⟨0, []⟩ + weightOf neighbours := Tally.addNeighbours_total _ _
  have nothing : Tally.total ⟨0, []⟩ = 0 := rfl
  rw [nothing, Nat.zero_add] at all
  have zero := Tally.zero_le (neighbours.foldl (Tally.addNeighbour bias reference) ⟨0, []⟩)
  have ranked := Tally.ranked_le (neighbours.foldl (Tally.addNeighbour bias reference) ⟨0, []⟩)
  exact ⟨Nat.le_trans zero all, Nat.le_trans ranked.1 all, Nat.le_trans ranked.2 all,
    weightOfSplits_le neighbours⟩

theorem search?_eq (few : neighbours.length ≤ 3) :
    search? bias reference neighbours = some (search bias reference neighbours) := by
  unfold search?
  rw [Tally.addNeighbours?_eq _ _ (by rw [List.length_nil]; omega)]
  rfl

theorem contextOf?_eq {weight : Nat} (small : weight ≤ 5) :
    contextOf? weight = some (contextOf weight) := by
  unfold contextOf? contextOf
  rw [Vector.getElem?_eq_getElem (by omega)]
  simp only [Nat.min_eq_left small]

theorem modeProbs?_eq (light : weightOf neighbours ≤ 5) :
    (search bias reference neighbours).modeProbs? =
      some (search bias reference neighbours).modeProbs := by
  obtain ⟨zero, nearest, near, split⟩ := search_weights bias reference neighbours
  unfold modeProbs?
  rw [contextOf?_eq (by omega), contextOf?_eq (by omega), contextOf?_eq (by omega),
    contextOf?_eq (by omega)]
  rfl

theorem neighbours?_eq {rows cols : Nat} (g : Grid rows cols) (r : Fin rows) (c : Fin cols) :
    neighbours? g r c = some (Candidates.neighbours g r c) := by
  unfold neighbours?
  rw [g.above?_eq, g.left?_eq, g.aboveLeft?_eq]
  rfl

end Candidates

end Vp8
