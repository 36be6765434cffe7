import Mathlib.Tactic.SplitIfs
import Vp8.Image.Pool
import Vp8.Proofs.Table

/-!
The pool's count of holders, and pools that hold the same pictures in the same roles, in whatever
places.
-/
namespace Vp8.PicturePool

variable {rows cols : Nat} {p q : PicturePool rows cols}

def share (place k : Fin 4) : Nat := if place = k then 1 else 0

@[simp] theorem share_self (k : Fin 4) : share k k = 1 := if_pos rfl

theorem share_of_ne {place k : Fin 4} (other : place ≠ k) : share place k = 0 := if_neg other

def references (p : PicturePool rows cols) (k : Fin 4) : Nat :=
  share p.last k + share p.golden k + share p.altref k

def Balanced (p : PicturePool rows cols) : Prop := ∀ k, p.holders.get k = p.references k

def Counted (p : PicturePool rows cols) : Prop :=
  ∀ k, p.holders.get k = p.references k + share p.target k

theorem blank_balanced : (blank rows cols).Balanced := by
  intro k
  match k with
  | 0 => rfl
  | 1 => rfl
  | 2 => rfl
  | 3 => rfl

/-- Three references leave one of four pictures free. -/
theorem exists_free (balanced : p.Balanced) : ∃ k, p.holders.get k = 0 := by
  have spare : ∀ a b c : Fin 4, ∃ k, a ≠ k ∧ b ≠ k ∧ c ≠ k := by decide
  obtain ⟨k, last, golden, altref⟩ := spare p.last p.golden p.altref
  refine ⟨k, ?_⟩
  rw [balanced k]
  unfold references
  rw [share_of_ne last, share_of_ne golden, share_of_ne altref]

structure Acquired (p r : PicturePool rows cols) : Prop where
  counted : r.Counted
  fresh : ∀ a, a ≠ .current → r.place a ≠ r.target
  place : ∀ a, a ≠ .current → r.place a = p.place a
  picture : ∀ a, a ≠ .current → r.picture a = p.picture a

theorem unheld_of_references {k : Fin 4} (none : p.references k = 0) :
    p.last ≠ k ∧ p.golden ≠ k ∧ p.altref ≠ k := by
  unfold references at none
  refine ⟨?_, ?_, ?_⟩
  all_goals
    rintro rfl
    rw [share_self] at none
    omega

theorem acquire_balanced (balanced : p.Balanced) : ∃ r, p.acquire = .ok r ∧ Acquired p r := by
  obtain ⟨free, idle⟩ := exists_free balanced
  cases found : p.free? with
  | none =>
    unfold free? at found
    rw [List.find?_eq_none] at found
    have taken := found free (List.mem_finRange free)
    rw [idle] at taken
    exact absurd (decide_eq_true rfl) taken
  | some k =>
    have search := found
    unfold free? at search
    have unheld : p.holders.get k = 0 := by
      simpa using List.find?_some search
    have apart := balanced k
    rw [unheld] at apart
    obtain ⟨last, golden, altref⟩ := unheld_of_references apart.symm
    refine ⟨_, by rw [acquire, found], ?_, ?_, ?_, ?_⟩
    · intro j
      dsimp only
      rw [get_replaceAt]
      by_cases same : k = j
      · subst same
        rw [if_pos rfl, share_self]
        exact congrArg (· + 1) apart
      · rw [if_neg same, share_of_ne same]
        exact balanced j
    · intro a other
      cases a with
      | current => contradiction
      | last => exact last
      | golden => exact golden
      | altref => exact altref
    · intro a other
      cases a with
      | current => contradiction
      | last | golden | altref => rfl
    · intro a other
      unfold picture
      cases a with
      | current => contradiction
      | last => exact get_replaceAt_of_ne _ _ last.symm
      | golden => exact get_replaceAt_of_ne _ _ golden.symm
      | altref => exact get_replaceAt_of_ne _ _ altref.symm

theorem hold_holders (i j : Fin 4) :
    (p.hold i).holders.get j = p.holders.get j + share i j := by
  unfold hold share
  dsimp only
  rw [get_replaceAt]
  split
  · rename_i same
    rw [same]
  · rfl

theorem release_holders (i j : Fin 4) :
    (p.release i).holders.get j = p.holders.get j - share i j := by
  unfold release share
  dsimp only
  rw [get_replaceAt]
  split
  · rename_i same
    rw [same]
  · rfl

theorem release_balanced (counted : p.Counted) : (p.release p.target).Balanced := by
  intro k
  have count := counted k
  rw [release_holders]
  change _ = p.references k
  omega

theorem setPicture_counted (counted : p.Counted) (a : Reference) (x : Picture rows cols) :
    (p.setPicture a x).Counted := counted

theorem picture_setPicture (a b : Reference) (x : Picture rows cols) :
    (p.setPicture a x).picture b = if p.place a = p.place b then x else p.picture b := by
  unfold setPicture picture
  exact get_replaceAt _ _ _ _

theorem place_assign (a b : Reference) (k : Fin 4) :
    (p.assign a k).place b = if b = a then k else p.place b := by
  cases a <;> cases b <;> rfl

theorem picture_assign (a b c : Reference) :
    (p.assign a (p.place c)).picture b = p.picture (if b = a then c else b) := by
  unfold picture
  rw [place_assign]
  have same : (p.assign a (p.place c)).pictures = p.pictures := by
    cases a <;> rfl
  rw [same]
  split <;> rfl

theorem references_withPlace {a : Reference} (other : a ≠ .current) (k j : Fin 4) :
    (p.withPlace a k).references j + share (p.place a) j = p.references j + share k j := by
  unfold references
  cases a with
  | current => contradiction
  | last => simp only [withPlace, place]; omega
  | golden => simp only [withPlace, place]; omega
  | altref => simp only [withPlace, place]; omega

theorem share_le_references {a : Reference} (other : a ≠ .current) (k : Fin 4) :
    share (p.place a) k ≤ p.references k := by
  unfold references
  cases a with
  | current => contradiction
  | last => simp only [place]; omega
  | golden => simp only [place]; omega
  | altref => simp only [place]; omega

theorem assign_counted (counted : p.Counted) {a : Reference} (other : a ≠ .current) (k : Fin 4) :
    (p.assign a k).Counted := by
  intro j
  have count := counted j
  have change := references_withPlace (p := p) other k j
  have bound := share_le_references (p := p) other j
  have references : (p.assign a k).references j = (p.withPlace a k).references j := by
    cases a <;> rfl
  have target : (p.assign a k).target = p.target := by
    cases a with
    | current => contradiction
    | last | golden | altref => rfl
  have holders :
      ((p.release (p.place a)).withPlace a k).holders = (p.release (p.place a)).holders := by
    cases a <;> rfl
  rw [references, target]
  unfold assign
  rw [hold_holders, holders, release_holders]
  omega

theorem copy_counted (counted : p.Counted) {a : Reference} (other : a ≠ .current) (b : Reference)
    (c : ReferenceCopy) : (p.copy a b c).Counted := by
  cases c with
  | keep => exact counted
  | last => exact assign_counted counted other _
  | other => exact assign_counted counted other _

theorem refresh_counted (counted : p.Counted) {a : Reference} (other : a ≠ .current)
    (refreshed : Bool) : (p.refresh a refreshed).Counted := by
  cases refreshed with
  | false => exact counted
  | true => exact assign_counted counted other _

/-- The references with the copies and the target that a frame asks for. -/
def replaced (p : PicturePool rows cols) (u : ReferenceUpdate) : PicturePool rows cols :=
  ((((p.copy .altref .golden u.copyToAltref).copy .golden .altref u.copyToGolden).refresh
    .golden u.refreshGolden).refresh .altref u.refreshAltref).refresh .last u.refreshLast

theorem commit_eq (p : PicturePool rows cols) (u : ReferenceUpdate) :
    p.commit u = { p.replaced u with shown := (p.replaced u).target }.release
      (p.replaced u).target := rfl

theorem replaced_counted (counted : p.Counted) (u : ReferenceUpdate) : (p.replaced u).Counted := by
  unfold replaced
  apply refresh_counted _ (by decide)
  apply refresh_counted _ (by decide)
  apply refresh_counted _ (by decide)
  apply copy_counted _ (by decide)
  apply copy_counted counted (by decide)

theorem commit_balanced (counted : p.Counted) (u : ReferenceUpdate) : (p.commit u).Balanced := by
  rw [commit_eq]
  exact release_balanced (replaced_counted counted u)

structure Matching (roles : Reference → Prop) (p q : PicturePool rows cols) : Prop where
  pictures : ∀ a, roles a → p.picture a = q.picture a
  shared : ∀ a b, roles a → roles b → (p.place a = p.place b ↔ q.place a = q.place b)

variable {roles others : Reference → Prop}

theorem Matching.mono (matching : Matching roles p q) (fewer : ∀ a, others a → roles a) :
    Matching others p q := by
  constructor
  · intro a member
    exact matching.pictures a (fewer a member)
  · intro a b left right
    exact matching.shared a b (fewer a left) (fewer b right)

theorem Matching.assign (matching : Matching roles p q) {a c : Reference} (known : roles c)
    (new : ∀ b, others b → b = a ∨ roles b) :
    Matching others (p.assign a (p.place c)) (q.assign a (q.place c)) := by
  have source : ∀ b, others b → roles (if b = a then c else b) := by
    intro b member
    split
    · exact known
    · rename_i same
      rcases new b member with equal | old
      · exact absurd equal same
      · exact old
  have places (r : PicturePool rows cols) (b : Reference) :
      (r.assign a (r.place c)).place b = r.place (if b = a then c else b) := by
    rw [place_assign]
    split <;> rfl
  constructor
  · intro b member
    rw [picture_assign, picture_assign]
    exact matching.pictures _ (source b member)
  · intro b d left right
    rw [places, places, places, places]
    exact matching.shared _ _ (source b left) (source d right)

theorem Matching.setPicture (matching : Matching roles p q) {a : Reference} (known : roles a)
    (x : Picture rows cols) : Matching roles (p.setPicture a x) (q.setPicture a x) := by
  constructor
  · intro b member
    rw [picture_setPicture, picture_setPicture, matching.pictures b member]
    by_cases same : p.place a = p.place b
    · rw [if_pos same, if_pos ((matching.shared a b known member).mp same)]
    · rw [if_neg same, if_neg fun equal => same ((matching.shared a b known member).mpr equal)]
  · exact matching.shared

theorem Matching.copy (matching : Matching (fun _ => True) p q) (a b : Reference)
    (c : ReferenceCopy) : Matching (fun _ => True) (p.copy a b c) (q.copy a b c) := by
  cases c with
  | keep => exact matching
  | last => exact matching.assign (c := .last) trivial fun b _ => .inr trivial
  | other => exact matching.assign (c := b) trivial fun b _ => .inr trivial

theorem Matching.refresh (matching : Matching (fun _ => True) p q) (a : Reference)
    (refreshed : Bool) :
    Matching (fun _ => True) (p.refresh a refreshed) (q.refresh a refreshed) := by
  cases refreshed with
  | false => exact matching
  | true => exact matching.assign (c := .current) trivial fun b _ => .inr trivial

theorem Matching.replaced (matching : Matching (fun _ => True) p q) (u : ReferenceUpdate) :
    Matching (fun _ => True) (p.replaced u) (q.replaced u) := by
  unfold PicturePool.replaced
  apply Matching.refresh
  apply Matching.refresh
  apply Matching.refresh
  apply Matching.copy
  apply Matching.copy
  exact matching

theorem Matching.commit (matching : Matching (fun _ => True) p q) (u : ReferenceUpdate) :
    Matching (fun _ => True) (p.commit u) (q.commit u) := by
  have replaced := matching.replaced u
  constructor
  · intro a member
    exact replaced.pictures a member
  · intro a b left right
    exact replaced.shared a b left right

def Keeps (p r : PicturePool rows cols) : Prop := r.pictures = p.pictures ∧ r.target = p.target

theorem Keeps.assign {r : PicturePool rows cols} (keeps : Keeps p r) {a : Reference}
    (other : a ≠ .current) (k : Fin 4) : Keeps p (r.assign a k) := by
  cases a with
  | current => contradiction
  | last | golden | altref => exact keeps

theorem Keeps.copy {r : PicturePool rows cols} (keeps : Keeps p r) {a : Reference}
    (other : a ≠ .current) (b : Reference) (c : ReferenceCopy) : Keeps p (r.copy a b c) := by
  cases c with
  | keep => exact keeps
  | last => exact keeps.assign other _
  | other => exact keeps.assign other _

theorem Keeps.refresh {r : PicturePool rows cols} (keeps : Keeps p r) {a : Reference}
    (other : a ≠ .current) (refreshed : Bool) : Keeps p (r.refresh a refreshed) := by
  cases refreshed with
  | false => exact keeps
  | true => exact keeps.assign other _

theorem replaced_keeps (p : PicturePool rows cols) (u : ReferenceUpdate) :
    Keeps p (p.replaced u) := by
  unfold replaced
  apply Keeps.refresh _ (by decide)
  apply Keeps.refresh _ (by decide)
  apply Keeps.refresh _ (by decide)
  apply Keeps.copy _ (by decide)
  apply Keeps.copy _ (by decide)
  exact ⟨rfl, rfl⟩

theorem commit_place (p : PicturePool rows cols) (u : ReferenceUpdate) (a : Reference) :
    (p.commit u).place a = (p.replaced u).place a := by
  cases a <;> rfl

theorem commit_pictures (p : PicturePool rows cols) (u : ReferenceUpdate) :
    (p.commit u).pictures = p.pictures := (replaced_keeps p u).1

theorem commit_all_place (p : PicturePool rows cols) (a : Reference) :
    (p.commit .all).place a = p.target := by
  rw [commit_place]
  cases a <;> rfl

theorem commit_all_picture (p : PicturePool rows cols) (a : Reference) :
    (p.commit .all).picture a = p.picture .current := by
  unfold picture
  rw [commit_all_place, commit_pictures]
  rfl

theorem Matching.commit_all (same : p.picture .current = q.picture .current) :
    Matching (fun _ => True) (p.commit .all) (q.commit .all) := by
  constructor
  · intro a _
    rw [commit_all_picture, commit_all_picture, same]
  · intro a b _ _
    rw [commit_all_place, commit_all_place, commit_all_place, commit_all_place]
    simp only

theorem commit_shown (p : PicturePool rows cols) (u : ReferenceUpdate) :
    (p.commit u).shownPicture = p.picture .current := by
  obtain ⟨pictures, target⟩ := replaced_keeps p u
  rw [commit_eq]
  change (p.replaced u).pictures.get (p.replaced u).target = p.pictures.get p.target
  rw [pictures, target]

theorem picture_current (p : PicturePool rows cols) (x : Picture rows cols) :
    (p.setPicture .current x).picture .current = x := by
  rw [picture_setPicture, if_pos rfl]

theorem Acquired.setPicture {r : PicturePool rows cols} (acquired : Acquired p r)
    (x : Picture rows cols) : Acquired p (r.setPicture .current x) := by
  refine ⟨acquired.counted, acquired.fresh, acquired.place, ?_⟩
  intro a other
  have apart : r.place .current ≠ r.place a := (acquired.fresh a other).symm
  rw [picture_setPicture, if_neg apart]
  exact acquired.picture a other

theorem Matching.finish (matching : Matching (· ≠ .current) p q)
    (left : ∀ a, a ≠ .current → p.place a ≠ p.place .current)
    (right : ∀ a, a ≠ .current → q.place a ≠ q.place .current) (x : Picture rows cols) :
    Matching (fun _ => True) (p.setPicture .current x) (q.setPicture .current x) := by
  constructor
  · intro a _
    by_cases current : a = .current
    · rw [current, picture_current, picture_current]
    · rw [picture_setPicture, picture_setPicture, if_neg (left a current).symm,
        if_neg (right a current).symm, matching.pictures a current]
  · intro a b _ _
    change p.place a = p.place b ↔ q.place a = q.place b
    by_cases first : a = .current
    · by_cases second : b = .current
      · rw [first, second]
        simp only
      · rw [first]
        exact ⟨fun same => absurd same.symm (left b second),
          fun same => absurd same.symm (right b second)⟩
    · by_cases second : b = .current
      · rw [second]
        exact ⟨fun same => absurd same (left a first), fun same => absurd same (right a first)⟩
      · exact matching.shared a b first second

theorem Matching.markDamaged (matching : Matching roles p q) {a : Reference} (known : roles a) :
    Matching roles (p.markDamaged a) (q.markDamaged a) := by
  unfold PicturePool.markDamaged
  rw [matching.pictures a known]
  exact matching.setPicture known _

/-- Two pools between frames that later frames cannot tell apart. -/
structure Alike (p q : PicturePool rows cols) : Prop where
  matching : Matching (· ≠ .current) p q
  left : p.Balanced
  right : q.Balanced

theorem Matching.acquired {r s : PicturePool rows cols} (matching : Matching (· ≠ .current) p q)
    (left : Acquired p r) (right : Acquired q s) : Matching (· ≠ .current) r s := by
  constructor
  · intro a other
    rw [left.picture a other, right.picture a other]
    exact matching.pictures a other
  · intro a b first second
    rw [left.place a first, left.place b second, right.place a first, right.place b second]
    exact matching.shared a b first second

/-- The sources of a frame are the references, whatever places they have. -/
theorem Acquired.reference? {r : PicturePool rows cols} (acquired : Acquired p r) {a : Reference}
    (other : a ≠ .current) : r.reference? a = some (p.picture a) := by
  unfold PicturePool.reference?
  rw [if_neg (acquired.fresh a other), acquired.picture a other]

theorem Matching.discard (matching : Matching (· ≠ .current) p q)
    (left : ∀ a, a ≠ .current → p.place a ≠ p.place .current)
    (right : ∀ a, a ≠ .current → q.place a ≠ q.place .current) (x y : Picture rows cols) :
    Matching (· ≠ .current) (p.setPicture .current x) (q.setPicture .current y) := by
  constructor
  · intro a other
    rw [picture_setPicture, picture_setPicture, if_neg (left a other).symm,
      if_neg (right a other).symm, matching.pictures a other]
  · exact matching.shared

theorem Alike.abandon (matching : Matching (· ≠ .current) p q) (left : p.Counted)
    (right : q.Counted) : Alike p.abandon q.abandon := by
  constructor
  · constructor
    · exact matching.pictures
    · exact matching.shared
  · exact release_balanced left
  · exact release_balanced right

theorem Alike.commit (matching : Matching (fun _ => True) (p.commit u) (q.commit u))
    (left : p.Counted) (right : q.Counted) : Alike (p.commit u) (q.commit u) := by
  constructor
  · exact matching.mono fun _ _ => trivial
  · exact commit_balanced left u
  · exact commit_balanced right u

theorem markDamaged_balanced (balanced : p.Balanced) (a : Reference) :
    (p.markDamaged a).Balanced := balanced

theorem Alike.markDamaged (alike : Alike p q) {a : Reference} (known : a ≠ .current) :
    Alike (p.markDamaged a) (q.markDamaged a) := by
  constructor
  · exact alike.matching.markDamaged known
  · exact markDamaged_balanced alike.left a
  · exact markDamaged_balanced alike.right a

end Vp8.PicturePool
