import Vp8.Error
import Vp8.Frame.Header
import Vp8.Image.Picture
import Vp8.Macroblock.Mode

/-!
The pictures a decoder works on. Four pictures are shared by four roles: the frame being decoded
(its target) and the three references. Several roles may hold one picture; a picture that no role
holds is free for the next target, and its contents mean nothing.
-/
namespace Vp8

structure PicturePool (rows cols : Nat) where
  pictures : Vector (Picture rows cols) 4
  holders : Vector Nat 4
  target : Fin 4
  last : Fin 4
  golden : Fin 4
  altref : Fin 4
  /-- The outcome of the last frame that was committed. -/
  shown : Fin 4

namespace PicturePool

/-- The references start on three blank pictures, which leaves one for the first target. -/
def blank (rows cols : Nat) : PicturePool rows cols where
  pictures := .replicate 4 (.blank rows cols)
  holders := #v[0, 1, 1, 1]
  target := 0
  last := 1
  golden := 2
  altref := 3
  shown := 1

def blocks (rows cols : Nat) : List Nat :=
  (List.replicate 4 (Picture.blocks rows cols)).flatten

def place (p : PicturePool rows cols) : Reference → Fin 4
  | .current => p.target
  | .last => p.last
  | .golden => p.golden
  | .altref => p.altref

def picture (p : PicturePool rows cols) (role : Reference) : Picture rows cols :=
  p.pictures.get (p.place role)

def setPicture (p : PicturePool rows cols) (role : Reference) (picture : Picture rows cols) :
    PicturePool rows cols :=
  { p with pictures := replaceAt p.pictures (p.place role) picture }

def shownPicture (p : PicturePool rows cols) : Picture rows cols := p.pictures.get p.shown

def markDamaged (p : PicturePool rows cols) (role : Reference) : PicturePool rows cols :=
  p.setPicture role { p.picture role with damaged := true }

def hold (p : PicturePool rows cols) (k : Fin 4) : PicturePool rows cols :=
  { p with holders := replaceAt p.holders k (p.holders.get k + 1) }

def release (p : PicturePool rows cols) (k : Fin 4) : PicturePool rows cols :=
  { p with holders := replaceAt p.holders k (p.holders.get k - 1) }

def free? (p : PicturePool rows cols) : Option (Fin 4) :=
  (List.finRange 4).find? fun k => p.holders.get k = 0

def acquire (p : PicturePool rows cols) : Except DecodeError (PicturePool rows cols) :=
  match p.free? with
  | none => .error (.corruptFrame .noFreeBuffer)
  | some k => .ok { p with
      target := k
      holders := replaceAt p.holders k 1
      pictures := replaceAt p.pictures k { p.pictures.get k with damaged := false } }

def abandon (p : PicturePool rows cols) : PicturePool rows cols := p.release p.target

def withPlace (p : PicturePool rows cols) (role : Reference) (k : Fin 4) : PicturePool rows cols :=
  match role with
  | .current => { p with target := k }
  | .last => { p with last := k }
  | .golden => { p with golden := k }
  | .altref => { p with altref := k }

def assign (p : PicturePool rows cols) (role : Reference) (k : Fin 4) : PicturePool rows cols :=
  ((p.release (p.place role)).withPlace role k).hold k

def copy (p : PicturePool rows cols) (role other : Reference) :
    ReferenceCopy → PicturePool rows cols
  | .keep => p
  | .last => p.assign role p.last
  | .other => p.assign role (p.place other)

def refresh (p : PicturePool rows cols) (role : Reference) (refreshed : Bool) :
    PicturePool rows cols :=
  if refreshed then p.assign role p.target else p

/-- Let the target replace references as its frame asks for, and show it. Altref is copied before
    golden, so a copy of altref to golden takes the new altref, and copies come before the target
    is put in any place. -/
def commit (p : PicturePool rows cols) (u : ReferenceUpdate) : PicturePool rows cols :=
  let p := p.copy .altref .golden u.copyToAltref
  let p := p.copy .golden .altref u.copyToGolden
  let p := p.refresh .golden u.refreshGolden
  let p := p.refresh .altref u.refreshAltref
  let p := p.refresh .last u.refreshLast
  { p with shown := p.target }.release p.target

/-- The picture of a reference while the target is written; the target is no reference. -/
def reference? (p : PicturePool rows cols) (role : Reference) : Option (Picture rows cols) :=
  if p.place role = p.target then none else some (p.picture role)

end PicturePool

end Vp8
