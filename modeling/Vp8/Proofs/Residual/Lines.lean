import Mathlib.Data.Fintype.Basic
import Mathlib.Tactic.FinCases
import Vp8.Proofs.Table
import Vp8.Residual.Transform

/-!
Blocks as four columns or four rows, what a pass over either leaves at a position, and the range and
the rest of a number that is kept in 16 bits.
-/
namespace Vp8

theorem wrap16_eq (x : Int) : wrap16 x = (x + 32768) % 65536 - 32768 := by
  unfold wrap16
  rw [Int.bmod_def]
  split <;> omega

theorem wrap16_bounds (x : Int) : -32768 ≤ wrap16 x ∧ wrap16 x ≤ 32768 := by
  rw [wrap16_eq]
  omega

theorem wrap16_wrap16 (x : Int) : wrap16 (wrap16 x) = wrap16 x := by
  rw [wrap16_eq, wrap16_eq]
  omega

namespace Line

def entry (l : Line) : Fin 4 → Int
  | 0 => l.x0
  | 1 => l.x1
  | 2 => l.x2
  | 3 => l.x3

def ofFn (g : Fin 4 → Int) : Line := ⟨g 0, g 1, g 2, g 3⟩

theorem entry_map (f : Int → Int) (l : Line) (k : Fin 4) : (l.map f).entry k = f (l.entry k) := by
  fin_cases k <;> rfl

end Line

namespace Block

def column (b : Block) (x : Fin 4) : Line := .ofFn fun y => b.get (position y x)

def row (b : Block) (y : Fin 4) : Line := .ofFn fun x => b.get (position y x)

theorem get_mapColumns (f : Line → Line) (b : Block) (y x : Fin 4) :
    (mapColumns f b).get (position y x) = (f (b.column x)).entry y := by
  fin_cases y <;> fin_cases x <;> rfl

theorem get_mapRows (f : Line → Line) (b : Block) (y x : Fin 4) :
    (mapRows f b).get (position y x) = (f (b.row y)).entry x := by
  fin_cases y <;> fin_cases x <;> rfl

theorem position_surjective (k : Fin 16) : ∃ y x, position y x = k := by
  revert k
  decide

theorem ext_position {α : Type} {a b : Vector α 16}
    (same : ∀ y x, a.get (position y x) = b.get (position y x)) : a = b := by
  apply ext_get
  intro k
  obtain ⟨y, x, rfl⟩ := position_surjective k
  exact same y x

end Block

end Vp8
