import Vp8.Macroblock.Grid
import Vp8.Proofs.Image.References

/-!
A record of which pictures are damaged, kept beside a pool that only has marks. Pictures have
numbers in it that are never used again, so it knows nothing of where they lie in memory.
-/
namespace Vp8

theorem Grid.any_cells (g : Grid rows cols) (chosen : Macroblock → Bool) :
    (g.cells.any fun row => row.any chosen) = true ↔ ∃ y x, chosen (g.get y x) = true := by
  rw [Vector.any_eq_true]
  constructor
  · rintro ⟨y, rowsBound, found⟩
    obtain ⟨x, colsBound, found⟩ := Vector.any_eq_true.mp found
    exact ⟨⟨y, rowsBound⟩, ⟨x, colsBound⟩, found⟩
  · rintro ⟨y, x, found⟩
    exact ⟨y, y.isLt, Vector.any_eq_true.mpr ⟨x, x.isLt, found⟩⟩

/-- The numbers of the pictures that the references hold, the next number, and the numbers of
    damaged pictures. -/
structure Ledger where
  held : References Nat
  next : Nat
  damaged : List Nat
  deriving DecidableEq, Repr

namespace Ledger

def renew (l : Ledger) : Ledger where
  held := ⟨l.next, l.next + 1, l.next + 2⟩
  next := l.next + 3
  damaged := l.damaged

def blank : Ledger := renew ⟨⟨0, 0, 0⟩, 0, []⟩

def number (l : Ledger) (a : Reference) : Nat := l.held.holding l.next a

def spoils (l : Ledger) (m : Macroblock) : Bool :=
  m.reference ≠ .current && l.damaged.contains (l.number m.reference)

/-- The current frame is committed, and damaged if it has data missing or is predicted from a
    damaged picture. -/
def commit (l : Ledger) (u : ReferenceUpdate) (g : Grid rows cols) (overrun : Bool) : Ledger where
  held := l.held.update u l.next
  next := l.next + 1
  damaged :=
    if overrun || g.cells.any fun row => row.any l.spoils then l.next :: l.damaged else l.damaged

def loseLast (l : Ledger) : Ledger := { l with damaged := l.number .last :: l.damaged }

def latest (l : Ledger) : Nat := l.next - 1

structure Sound (l : Ledger) : Prop where
  held : ∀ a, a ≠ .current → l.number a < l.next
  damaged : ∀ n, n ∈ l.damaged → n < l.next

variable {rows cols : Nat} {l : Ledger} {p r : PicturePool rows cols}

structure Tracks (l : Ledger) (p : PicturePool rows cols) : Prop where
  shared : ∀ a b, a ≠ .current → b ≠ .current → (p.place a = p.place b ↔ l.number a = l.number b)
  marked : ∀ a, a ≠ .current → ((p.picture a).damaged = true ↔ l.number a ∈ l.damaged)

theorem Sound.renew (sound : l.Sound) : l.renew.Sound := by
  constructor
  · intro a other
    cases a with
    | current => contradiction
    | last | golden | altref =>
      simp only [number, Ledger.renew, References.holding]
      omega
  · intro n member
    have past := sound.damaged n member
    exact Nat.lt_add_right 3 past

theorem Sound.next_not_damaged (sound : l.Sound) : l.next ∉ l.damaged := by
  intro member
  exact Nat.lt_irrefl _ (sound.damaged _ member)

theorem Sound.loseLast (sound : l.Sound) : l.loseLast.Sound := by
  constructor
  · exact sound.held
  · intro n member
    rcases List.mem_cons.mp member with rfl | member
    · exact sound.held .last (by decide)
    · exact sound.damaged n member

theorem number_commit (l : Ledger) (u : ReferenceUpdate) (g : Grid rows cols) (overrun : Bool)
    {a : Reference} (other : a ≠ .current) :
    (l.commit u g overrun).number a = l.number (u.origin a) := by
  unfold number
  rw [References.holding_of_ne _ other _ l.next]
  exact l.held.holding_update u l.next a

def Spoilt (l : Ledger) (g : Grid rows cols) (overrun : Bool) : Prop :=
  overrun = true ∨ ∃ y x, l.spoils (g.get y x) = true

theorem mem_commit (l : Ledger) (u : ReferenceUpdate) (g : Grid rows cols) (overrun : Bool)
    (n : Nat) :
    n ∈ (l.commit u g overrun).damaged ↔ n = l.next ∧ l.Spoilt g overrun ∨ n ∈ l.damaged := by
  have some : (overrun || g.cells.any fun row => row.any l.spoils) = true ↔
      l.Spoilt g overrun := by
    unfold Spoilt
    rw [Bool.or_eq_true, Grid.any_cells]
  unfold commit
  dsimp only
  by_cases spoilt : l.Spoilt g overrun
  · rw [if_pos (some.mpr spoilt), List.mem_cons]
    simp only [spoilt, and_true]
  · rw [if_neg fun bad => spoilt (some.mp bad)]
    simp only [spoilt, and_false, false_or]

theorem Sound.number_le (sound : l.Sound) (a : Reference) : l.number a ≤ l.next := by
  by_cases current : a = .current
  · rw [current]
    exact Nat.le_refl _
  · exact Nat.le_of_lt (sound.held a current)

theorem Sound.commit (sound : l.Sound) (u : ReferenceUpdate) (g : Grid rows cols)
    (overrun : Bool) : (l.commit u g overrun).Sound := by
  constructor
  · intro a other
    rw [number_commit l u g overrun other]
    exact Nat.lt_succ_of_le (sound.number_le _)
  · intro n member
    rcases (mem_commit l u g overrun n).mp member with ⟨rfl, _⟩ | member
    · exact Nat.lt_succ_self _
    · exact Nat.lt_succ_of_lt (sound.damaged n member)

theorem Sound.renew_tracks (sound : l.Sound) :
    l.renew.Tracks (PicturePool.blank rows cols) := by
  have numbered {a : Reference} (other : a ≠ .current) :
      l.renew.number a + 1 = l.next + ((PicturePool.blank rows cols).place a).val := by
    cases a with
    | current => contradiction
    | last | golden | altref => rfl
  constructor
  · intro a b first second
    have := numbered first
    have := numbered second
    rw [Fin.ext_iff]
    omega
  · intro a other
    have clean : ((PicturePool.blank rows cols).picture a).damaged = false := by
      cases a <;> rfl
    have new : l.renew.number a ∉ l.damaged := by
      intro member
      have past := sound.damaged _ member
      cases a with
      | current => contradiction
      | last | golden | altref =>
        simp only [number, Ledger.renew, References.holding] at past
        omega
    rw [clean]
    exact ⟨nofun, fun member => absurd member new⟩

theorem Tracks.shared_acquired (tracks : l.Tracks p) (sound : l.Sound) (acquired : p.Acquired r)
    (a b : Reference) : r.place a = r.place b ↔ l.number a = l.number b := by
  by_cases first : a = .current
  · by_cases second : b = .current
    · rw [first, second]
      simp only
    · rw [first]
      have place : r.place .current ≠ r.place b := (acquired.fresh b second).symm
      have number : l.number .current ≠ l.number b := Nat.ne_of_gt (sound.held b second)
      exact ⟨fun same => absurd same place, fun same => absurd same number⟩
  · by_cases second : b = .current
    · rw [second]
      have number : l.number a ≠ l.number .current := Nat.ne_of_lt (sound.held a first)
      exact ⟨fun same => absurd same (acquired.fresh a first), fun same => absurd same number⟩
    · rw [acquired.place a first, acquired.place b second]
      exact tracks.shared a b first second

/-- A committed frame has a mark exactly if the record calls it damaged. -/
theorem Tracks.commit (tracks : l.Tracks p) (sound : l.Sound) (acquired : p.Acquired r)
    {x : Picture rows cols} {g : Grid rows cols} {overrun : Bool}
    (marked : x.damaged = true ↔ l.Spoilt g overrun) (u : ReferenceUpdate) :
    (l.commit u g overrun).Tracks ((r.setPicture .current x).commit u) := by
  have shared := tracks.shared_acquired sound acquired
  constructor
  · intro a b first second
    rw [number_commit l u g overrun first, number_commit l u g overrun second,
      PicturePool.place_commit_origin _ u first, PicturePool.place_commit_origin _ u second]
    exact shared _ _
  · intro a other
    rw [number_commit l u g overrun other, PicturePool.picture_commit_origin _ u other, mem_commit]
    -- a reference gets the new picture, or what another reference held before
    generalize u.origin a = b
    by_cases current : b = .current
    · have fresh : l.number b = l.next := by rw [current]; rfl
      rw [fresh, current, PicturePool.picture_current, marked]
      simp only [true_and, sound.next_not_damaged, or_false]
    · have past : l.number b ≠ l.next := Nat.ne_of_lt (sound.held b current)
      rw [(acquired.setPicture x).picture b current]
      simp only [past, false_and, false_or]
      exact tracks.marked b current

theorem Tracks.abandon (tracks : l.Tracks p) (acquired : p.Acquired r) (x : Picture rows cols) :
    l.Tracks (r.setPicture .current x).abandon := by
  constructor
  · intro a b first second
    have place (c : Reference) (other : c ≠ .current) :
        (r.setPicture .current x).abandon.place c = p.place c := acquired.place c other
    rw [place a first, place b second]
    exact tracks.shared a b first second
  · intro a other
    change ((r.setPicture .current x).picture a).damaged = true ↔ _
    rw [(acquired.setPicture x).picture a other]
    exact tracks.marked a other

/-- The mark of the last picture shows in all references that share it. -/
theorem Tracks.loseLast (tracks : l.Tracks p) : l.loseLast.Tracks (p.markDamaged .last) := by
  constructor
  · exact tracks.shared
  · intro a other
    have shared := tracks.shared .last a (by decide) other
    have number : l.loseLast.number a = l.number a := rfl
    have damaged : l.loseLast.damaged = l.number .last :: l.damaged := rfl
    unfold PicturePool.markDamaged
    rw [PicturePool.picture_setPicture, number, damaged, List.mem_cons, ← tracks.marked a other]
    by_cases same : p.place .last = p.place a
    · rw [if_pos same]
      simp only [shared.mp same, true_or]
    · have numbers : l.number a ≠ l.number .last := fun equal => same (shared.mpr equal.symm)
      rw [if_neg same]
      simp only [numbers, false_or]

end Ledger

end Vp8
