import Vp8.Proofs.Image.Pool

/-!
The pool as a store of three references. Whatever memory they share, a committed frame copies and
replaces them as if each were a picture of its own, an abandoned one leaves them alone, and there is
always a picture to write the next frame to.
-/
namespace Vp8

structure References (α : Type) where
  last : α
  golden : α
  altref : α
  deriving DecidableEq, Repr

def ReferenceCopy.choose (c : ReferenceCopy) (own last other : α) : α :=
  match c with
  | .keep => own
  | .last => last
  | .other => other

namespace References

def holding (s : References α) (target : α) : Reference → α
  | .current => target
  | .last => s.last
  | .golden => s.golden
  | .altref => s.altref

def map (f : α → β) (s : References α) : References β := ⟨f s.last, f s.golden, f s.altref⟩

def update (s : References α) (u : ReferenceUpdate) (new : α) : References α :=
  let altref := u.copyToAltref.choose s.altref s.last s.golden
  let golden := u.copyToGolden.choose s.golden s.last altref
  { golden := if u.refreshGolden then new else golden
    altref := if u.refreshAltref then new else altref
    last := if u.refreshLast then new else s.last }

theorem map_update (f : α → β) (s : References α) (u : ReferenceUpdate) (new : α) :
    (s.update u new).map f = (s.map f).update u (f new) := by
  obtain ⟨refreshLast, refreshGolden, refreshAltref, copyToGolden, copyToAltref⟩ := u
  unfold update map
  cases copyToAltref <;> cases copyToGolden <;>
    simp only [ReferenceCopy.choose, apply_ite f]

theorem holding_of_ne (s : References α) {a : Reference} (other : a ≠ .current) (new new' : α) :
    s.holding new a = s.holding new' a := by
  cases a with
  | current => contradiction
  | last | golden | altref => rfl

end References

/-- The role whose picture a reference gets from a frame. -/
def ReferenceUpdate.origin (u : ReferenceUpdate) (a : Reference) : Reference :=
  ((⟨.last, .golden, .altref⟩ : References Reference).update u .current).holding .current a

theorem References.holding_update (s : References α) (u : ReferenceUpdate) (new : α)
    (a : Reference) : (s.update u new).holding new a = s.holding new (u.origin a) := by
  have moved := map_update (s.holding new) (⟨.last, .golden, .altref⟩ : References Reference) u
    .current
  have same : (⟨.last, .golden, .altref⟩ : References Reference).map (s.holding new) = s := rfl
  have current : s.holding new .current = new := rfl
  rw [same, current] at moved
  unfold ReferenceUpdate.origin
  rw [← moved]
  cases a <;> rfl

namespace PicturePool

variable {rows cols : Nat} {p r : PicturePool rows cols}

def places (p : PicturePool rows cols) : References (Fin 4) := ⟨p.last, p.golden, p.altref⟩

def held (p : PicturePool rows cols) : References (Picture rows cols) :=
  p.places.map p.pictures.get

theorem place_eq (p : PicturePool rows cols) (a : Reference) :
    p.place a = p.places.holding p.target a := by
  cases a <;> rfl

theorem places_copy_altref (p : PicturePool rows cols) (c : ReferenceCopy) :
    (p.copy .altref .golden c).places =
      { p.places with altref := c.choose p.places.altref p.places.last p.places.golden } := by
  cases c <;> rfl

theorem places_copy_golden (p : PicturePool rows cols) (c : ReferenceCopy) :
    (p.copy .golden .altref c).places =
      { p.places with golden := c.choose p.places.golden p.places.last p.places.altref } := by
  cases c <;> rfl

theorem places_refresh_golden (p : PicturePool rows cols) (refreshed : Bool) :
    (p.refresh .golden refreshed).places =
      { p.places with golden := if refreshed then p.target else p.places.golden } := by
  cases refreshed <;> rfl

theorem places_refresh_altref (p : PicturePool rows cols) (refreshed : Bool) :
    (p.refresh .altref refreshed).places =
      { p.places with altref := if refreshed then p.target else p.places.altref } := by
  cases refreshed <;> rfl

theorem places_refresh_last (p : PicturePool rows cols) (refreshed : Bool) :
    (p.refresh .last refreshed).places =
      { p.places with last := if refreshed then p.target else p.places.last } := by
  cases refreshed <;> rfl

theorem copy_target (p : PicturePool rows cols) {a : Reference} (other : a ≠ .current)
    (b : Reference) (c : ReferenceCopy) : (p.copy a b c).target = p.target :=
  (Keeps.copy (p := p) ⟨rfl, rfl⟩ other b c).2

theorem refresh_target (p : PicturePool rows cols) {a : Reference} (other : a ≠ .current)
    (refreshed : Bool) : (p.refresh a refreshed).target = p.target :=
  (Keeps.refresh (p := p) ⟨rfl, rfl⟩ other refreshed).2

theorem places_commit (p : PicturePool rows cols) (u : ReferenceUpdate) :
    (p.commit u).places = p.places.update u p.target := by
  have kept : (p.commit u).places = (p.replaced u).places := rfl
  rw [kept]
  unfold replaced References.update
  rw [places_refresh_last, refresh_target _ (by decide), places_refresh_altref,
    refresh_target _ (by decide), places_refresh_golden, copy_target _ (by decide),
    places_copy_golden, copy_target _ (by decide), places_copy_altref]

theorem held_commit (p : PicturePool rows cols) (u : ReferenceUpdate) :
    (p.commit u).held = p.held.update u (p.picture .current) := by
  unfold held
  rw [places_commit, commit_pictures, References.map_update]
  rfl

theorem place_commit_origin (p : PicturePool rows cols) (u : ReferenceUpdate) {a : Reference}
    (other : a ≠ .current) : (p.commit u).place a = p.place (u.origin a) := by
  rw [place_eq, place_eq, places_commit, References.holding_of_ne _ other _ p.target,
    References.holding_update]

theorem picture_commit_origin (p : PicturePool rows cols) (u : ReferenceUpdate) {a : Reference}
    (other : a ≠ .current) : (p.commit u).picture a = p.picture (u.origin a) := by
  unfold picture
  rw [place_commit_origin p u other, commit_pictures]

/-- A release that is refused where nothing is held. -/
def release? (p : PicturePool rows cols) (k : Fin 4) : Option (PicturePool rows cols) :=
  if p.holders.get k = 0 then none else some (p.release k)

def assign? (p : PicturePool rows cols) (role : Reference) (k : Fin 4) :
    Option (PicturePool rows cols) := do
  let p ← p.release? (p.place role)
  return (p.withPlace role k).hold k

def copy? (p : PicturePool rows cols) (role other : Reference) :
    ReferenceCopy → Option (PicturePool rows cols)
  | .keep => some p
  | .last => p.assign? role p.last
  | .other => p.assign? role (p.place other)

def refresh? (p : PicturePool rows cols) (role : Reference) (refreshed : Bool) :
    Option (PicturePool rows cols) :=
  if refreshed then p.assign? role p.target else some p

def commit? (p : PicturePool rows cols) (u : ReferenceUpdate) :
    Option (PicturePool rows cols) := do
  let p ← p.copy? .altref .golden u.copyToAltref
  let p ← p.copy? .golden .altref u.copyToGolden
  let p ← p.refresh? .golden u.refreshGolden
  let p ← p.refresh? .altref u.refreshAltref
  let p ← p.refresh? .last u.refreshLast
  { p with shown := p.target }.release? p.target

def abandon? (p : PicturePool rows cols) : Option (PicturePool rows cols) := p.release? p.target

/-- While a frame is written every role is counted, so no release is refused. -/
theorem Counted.release? (counted : p.Counted) (a : Reference) :
    p.release? (p.place a) = some (p.release (p.place a)) := by
  have count := counted (p.place a)
  have positive : p.holders.get (p.place a) ≠ 0 := by
    by_cases current : a = .current
    · rw [current] at count ⊢
      change _ = _ + share p.target p.target at count
      rw [share_self] at count
      omega
    · have held := share_le_references (p := p) current (p.place a)
      rw [share_self] at held
      omega
  exact if_neg positive

theorem Counted.assign? (counted : p.Counted) (a : Reference) (k : Fin 4) :
    p.assign? a k = some (p.assign a k) := by
  unfold PicturePool.assign?
  rw [counted.release? a]
  rfl

theorem Counted.copy? (counted : p.Counted) (a b : Reference) (c : ReferenceCopy) :
    p.copy? a b c = some (p.copy a b c) := by
  cases c with
  | keep => rfl
  | last => exact counted.assign? a _
  | other => exact counted.assign? a _

theorem Counted.refresh? (counted : p.Counted) (a : Reference) (refreshed : Bool) :
    p.refresh? a refreshed = some (p.refresh a refreshed) := by
  cases refreshed with
  | false => rfl
  | true => exact counted.assign? a _

theorem Counted.commit? (counted : p.Counted) (u : ReferenceUpdate) :
    p.commit? u = some (p.commit u) := by
  have altref := copy_counted counted (a := .altref) (by decide) .golden u.copyToAltref
  have golden := copy_counted altref (a := .golden) (by decide) .altref u.copyToGolden
  have refreshed := refresh_counted golden (a := .golden) (by decide) u.refreshGolden
  have renewed := refresh_counted refreshed (a := .altref) (by decide) u.refreshAltref
  have finished := replaced_counted counted u
  let shown := { p.replaced u with shown := (p.replaced u).target }
  have released := Counted.release? (p := shown) finished .current
  unfold PicturePool.commit?
  simp only [counted.copy?, altref.copy?, golden.refresh?, refreshed.refresh?, renewed.refresh?,
    Option.bind_eq_bind, Option.bind_some]
  exact released

theorem Counted.abandon? (counted : p.Counted) : p.abandon? = some p.abandon :=
  counted.release? .current

def write (p : PicturePool rows cols) (xs : List (Picture rows cols)) : PicturePool rows cols :=
  xs.foldl (fun p x => p.setPicture .current x) p

theorem Acquired.write (acquired : Acquired p r) (xs : List (Picture rows cols)) :
    Acquired p (r.write xs) := by
  induction xs generalizing r with
  | nil => exact acquired
  | cons x xs ih => exact ih (acquired.setPicture x)

theorem Acquired.held (acquired : Acquired p r) : r.held = p.held := by
  have pictures (x : PicturePool rows cols) :
      x.held = ⟨x.picture .last, x.picture .golden, x.picture .altref⟩ := rfl
  rw [pictures, pictures, acquired.picture .last (by decide),
    acquired.picture .golden (by decide), acquired.picture .altref (by decide)]

theorem picture_eq (p : PicturePool rows cols) (a : Reference) :
    p.picture a = p.held.holding (p.picture .current) a := by
  cases a <;> rfl

structure Refines (p : PicturePool rows cols) (s : References (Picture rows cols)) : Prop where
  held : p.held = s
  holders : ∀ k, p.holders.get k = [p.last, p.golden, p.altref].count k
  total : p.holders.foldl (· + ·) 0 = 3

/-- While the target is written the references are seen as they were, and it can take their places
    or be abandoned without a count that falls below zero. -/
structure Written (p : PicturePool rows cols) (s : References (Picture rows cols)) : Prop where
  fresh : ∀ a, a ≠ .current → p.place a ≠ p.target
  seen : ∀ a, p.picture a = s.holding (p.picture .current) a
  sources : ∀ a, a ≠ .current → p.reference? a = some (p.picture a)
  abandon? : p.abandon? = some p.abandon
  abandoned : p.abandon.held = s
  commit? : ∀ u, p.commit? u = some (p.commit u)
  committed : ∀ u, (p.commit u).held = s.update u (p.picture .current)
  shown : ∀ u, (p.commit u).shownPicture = p.picture .current

theorem references_eq_count (p : PicturePool rows cols) (k : Fin 4) :
    p.references k = [p.last, p.golden, p.altref].count k := by
  unfold references share
  simp only [List.count_cons, List.count_nil, beq_iff_eq]
  omega

theorem sum_counts (a b c : Fin 4) :
    (Vector.ofFn fun k => [a, b, c].count k).foldl (· + ·) 0 = 3 := by
  revert a b c
  decide

theorem Balanced.refines (balanced : p.Balanced) : Refines p p.held := by
  have holders (k : Fin 4) : p.holders.get k = [p.last, p.golden, p.altref].count k := by
    rw [balanced k, references_eq_count]
  refine ⟨rfl, holders, ?_⟩
  have counts : p.holders = .ofFn fun k => [p.last, p.golden, p.altref].count k := by
    apply Vector.ext
    intro i inside
    rw [Vector.getElem_ofFn]
    exact holders ⟨i, inside⟩
  rw [counts, sum_counts]

theorem Refines.balanced {s : References (Picture rows cols)} (refines : Refines p s) :
    p.Balanced := by
  intro k
  rw [refines.holders k, references_eq_count]

theorem Acquired.written (acquired : Acquired p r) : Written r p.held where
  fresh := acquired.fresh
  seen a := by
    rw [← acquired.held]
    exact r.picture_eq a
  sources a other := if_neg (acquired.fresh a other)
  abandon? := acquired.counted.abandon?
  abandoned := acquired.held
  commit? := acquired.counted.commit?
  committed u := by
    rw [held_commit, acquired.held]
  shown := r.commit_shown

end PicturePool

end Vp8
