import Vp8.Proofs.Frame.Progress
import Vp8.Proofs.Image.Pool
import Vp8.Session.Stream

/-!
Marks of damage say something about pictures and change nothing. To forget them all and then go on
is to go on and then forget them.
-/
namespace Vp8

namespace Picture

variable {rows cols : Nat}

def unmarked (p : Picture rows cols) : Picture rows cols := { p with damaged := false }

theorem unmarked_filterAt (settings : FilterSettings) (level : Macroblock → Nat)
    (g : Grid rows cols) (r : Fin rows) (p : Picture rows cols) (c : Fin cols) :
    (filterAt settings level g r p c).unmarked = filterAt settings level g r p.unmarked c := by
  unfold filterAt
  dsimp only
  split
  · rfl
  · unfold filterMacroblock
    dsimp only
    cases settings.kind <;> rfl

theorem unmarked_deblock (p : Picture rows cols) (settings : FilterSettings)
    (level : Macroblock → Nat) (g : Grid rows cols) :
    (p.deblock settings level g).unmarked = p.unmarked.deblock settings level g := by
  unfold deblock
  split
  · rfl
  · apply foldl_commutes unmarked
    intro p r
    apply foldl_commutes unmarked
    intro p c
    exact unmarked_filterAt settings level g r p c

theorem unmarked_reconstructFrom {r c : Nat} (p : Picture rows cols) (s : Sources rows cols)
    (reference : Option (Picture rows cols)) (fits : Fits rows cols r c) (m : Macroblock)
    (residual : Option Residual) :
    (p.reconstructFrom s reference fits m residual).unmarked =
      p.unmarked.reconstructFrom s (reference.map unmarked) fits m residual := by
  unfold reconstructFrom
  cases reference with
  | none => rfl
  | some reference =>
    have predicted : (p.predictInter reference s.interpolation s.fullPixel fits m).unmarked =
        p.unmarked.predictInter reference.unmarked s.interpolation s.fullPixel fits m := by
      unfold predictInter
      dsimp only
      split
      · rfl
      · rfl
    rw [Option.map_some]
    dsimp only
    rw [← predicted]
    cases residual with
    | none => rfl
    | some residual => rfl

end Picture

namespace Sources

variable {rows cols : Nat}

def unmarked (s : Sources rows cols) : Sources rows cols where
  last := s.last.map Picture.unmarked
  golden := s.golden.map Picture.unmarked
  altref := s.altref.map Picture.unmarked
  interpolation := s.interpolation
  fullPixel := s.fullPixel

theorem picture?_unmarked (s : Sources rows cols) (a : Reference) :
    s.unmarked.picture? a = (s.picture? a).map Picture.unmarked := by
  cases a <;> rfl

theorem find_unmarked (s : Sources rows cols) (a : Reference) :
    s.unmarked.find a = (s.find a).map (Option.map Picture.unmarked) := by
  unfold find
  rw [picture?_unmarked]
  split
  · rfl
  · cases s.picture? a <;> rfl

end Sources

theorem Picture.reconstruct_unmarked {rows cols : Nat} (p : Picture rows cols)
    (s : Sources rows cols) (r : Fin rows) (c : Fin cols) (m : Macroblock)
    (residual : Option Residual) :
    ((p.inheritDamage s m.reference).reconstruct s r c m residual).map unmarked =
      (p.unmarked.inheritDamage s.unmarked m.reference).reconstruct s.unmarked r c m residual := by
  have forgotten : (p.inheritDamage s m.reference).unmarked = p.unmarked := by
    unfold inheritDamage
    split <;> rfl
  have inherited {q : Option (Picture rows cols)} (found : s.find m.reference = .ok q) :
      p.unmarked.inheritDamage s.unmarked m.reference = p.unmarked := by
    unfold Sources.find at found
    unfold inheritDamage
    split
    · rfl
    -- a reference without a picture would mark the frame, but the search has found one
    · rename_i other
      rw [if_neg other] at found
      rw [s.picture?_unmarked]
      cases there : s.picture? m.reference with
      | none =>
        rw [there] at found
        contradiction
      | some q => rfl
  unfold reconstruct
  rw [s.find_unmarked]
  cases found : s.find m.reference with
  | error e => rfl
  | ok q =>
    rw [inherited found]
    dsimp only [Except.map, Bind.bind, Except.bind, Pure.pure, Except.pure]
    rw [unmarked_reconstructFrom, forgotten]
    rfl

def FrameSetup.unmarked (setup : FrameSetup rows cols) : FrameSetup rows cols :=
  { setup with sources := setup.sources.unmarked }

namespace Progress

variable {rows cols partitions : Nat}

def unmarked (p : Progress rows cols partitions) : Progress rows cols partitions :=
  { p with picture := p.picture.unmarked }

theorem macroblock_unmarked (setup : FrameSetup rows cols) (positive : 0 < partitions)
    (r : Fin rows) (p : Progress rows cols partitions) (c : Fin cols) :
    (macroblock setup positive r p c).map unmarked =
      macroblock setup.unmarked positive r p.unmarked c := by
  have tokens : tokensOf setup.unmarked p.unmarked r c = tokensOf setup p r c := rfl
  have readers : p.unmarked.readers = p.readers := rfl
  rw [macroblock_eq, macroblock_eq, tokens, readers]
  dsimp only
  generalize (tokensOf setup p r c).read (p.readers.get (turn positive r)) = read
  have placed := p.picture.reconstruct_unmarked setup.sources r c read.1.1.2 read.1.1.1
  have picture : p.unmarked.picture = p.picture.unmarked := rfl
  have sources : setup.unmarked.sources = setup.sources.unmarked := rfl
  unfold place
  rw [picture, sources, ← placed]
  cases (p.picture.inheritDamage setup.sources read.1.1.2.reference).reconstruct setup.sources
    r c read.1.1.2 read.1.1.1 with
  | error e => rfl
  | ok picture => rfl

theorem row_unmarked (setup : FrameSetup rows cols) (positive : 0 < partitions)
    (p : Progress rows cols partitions) (r : Fin rows) :
    (row setup positive p r).map unmarked = row setup.unmarked positive p.unmarked r := by
  have start : p.unmarked.startRow = p.startRow.unmarked := rfl
  have line := foldlM_commutes unmarked (macroblock_unmarked setup positive r) (List.finRange cols)
    p.startRow
  rw [row_eq, row_eq, start, ← line]
  cases (List.finRange cols).foldlM (macroblock setup positive r) p.startRow with
  | error e => rfl
  | ok p => rfl

end Progress

def Reconstruction.unmarked (d : Reconstruction rows cols) : Reconstruction rows cols :=
  { d with picture := d.picture.unmarked }

theorem reconstructFrame_unmarked (setup : FrameSetup rows cols) (target : Picture rows cols)
    (g : Grid rows cols) (parts : List ByteArray) :
    (reconstructFrame setup target g parts).map Reconstruction.unmarked =
      reconstructFrame setup.unmarked target.unmarked g parts := by
  unfold reconstructFrame
  split
  · rename_i positive
    let start : Progress rows cols parts.length := .start target g ⟨parts.toArray, rfl⟩
    have blank : Progress.start target.unmarked g ⟨parts.toArray, rfl⟩ = start.unmarked := rfl
    have run := foldlM_commutes Progress.unmarked (Progress.row_unmarked setup positive)
      (List.finRange rows) start
    unfold Progress.run
    rw [blank, ← run]
    cases (List.finRange rows).foldlM (Progress.row setup positive) start with
    | error e => rfl
    | ok p => rfl
  · rfl

/-- The mark of a finished frame aside, nothing comes of the marks it was made with. -/
theorem Stream.finish_unmarked (h : Headers) (p : Picture rows cols) (g : Grid rows cols)
    (overrun : Bool) :
    (finish h p g overrun).unmarked = (finish h p.unmarked g overrun).unmarked := by
  have unmarked_extend (p : Picture rows cols) : p.extend.unmarked = p.unmarked.extend := rfl
  unfold finish
  change (Picture.extend _).unmarked = (Picture.extend _).unmarked
  rw [unmarked_extend, unmarked_extend, Picture.unmarked_deblock, Picture.unmarked_deblock]
  rfl

namespace PicturePool

variable {rows cols : Nat}

def unmarked (p : PicturePool rows cols) : PicturePool rows cols :=
  { p with pictures := p.pictures.map Picture.unmarked }

theorem unmarked_blank : (blank rows cols).unmarked = blank rows cols := by
  unfold unmarked blank
  rw [Vector.map_replicate]
  rfl

theorem unmarked_unmarked (p : PicturePool rows cols) : p.unmarked.unmarked = p.unmarked := by
  unfold unmarked
  rw [Vector.map_map]
  rfl

theorem picture_unmarked (p : PicturePool rows cols) (a : Reference) :
    p.unmarked.picture a = (p.picture a).unmarked := by
  cases a <;> exact get_map _ _ _

theorem shownPicture_unmarked (p : PicturePool rows cols) :
    p.unmarked.shownPicture = p.shownPicture.unmarked := get_map _ _ _

theorem reference?_unmarked (p : PicturePool rows cols) (a : Reference) :
    p.unmarked.reference? a = (p.reference? a).map Picture.unmarked := by
  have place : p.unmarked.place a = p.place a := by
    cases a <;> rfl
  have target : p.unmarked.target = p.target := rfl
  unfold reference?
  rw [place, target, picture_unmarked]
  split <;> rfl

theorem unmarked_replaceAt (xs : Vector (Picture rows cols) 4) (k : Fin 4)
    (x : Picture rows cols) :
    (replaceAt xs k x).map Picture.unmarked = replaceAt (xs.map Picture.unmarked) k x.unmarked := by
  unfold replaceAt
  rw [Vector.map_set]

theorem unmarked_setPicture (p : PicturePool rows cols) (a : Reference)
    (x : Picture rows cols) :
    (p.setPicture a x).unmarked = p.unmarked.setPicture a x.unmarked := by
  unfold setPicture unmarked
  dsimp only
  rw [unmarked_replaceAt]
  cases a <;> rfl

theorem unmarked_markDamaged (p : PicturePool rows cols) (a : Reference) :
    (p.markDamaged a).unmarked = p.unmarked := by
  have kept : p.unmarked.setPicture a (p.unmarked.picture a) = p.unmarked := by
    unfold setPicture picture
    rw [replaceAt_get]
  unfold markDamaged
  rw [unmarked_setPicture]
  change p.unmarked.setPicture a (p.picture a).unmarked = _
  rw [← picture_unmarked]
  exact kept

theorem unmarked_acquire (p : PicturePool rows cols) :
    p.acquire.map unmarked = p.unmarked.acquire := by
  have free : p.unmarked.free? = p.free? := rfl
  unfold acquire
  rw [free]
  cases p.free? with
  | none => rfl
  | some k =>
    dsimp only [Except.map]
    unfold unmarked
    dsimp only
    rw [unmarked_replaceAt, get_map]
    rfl

theorem unmarked_assign (p : PicturePool rows cols) (a : Reference) (k : Fin 4) :
    (p.assign a k).unmarked = p.unmarked.assign a k := by
  cases a <;> rfl

theorem unmarked_copy (p : PicturePool rows cols) (a b : Reference) (c : ReferenceCopy) :
    (p.copy a b c).unmarked = p.unmarked.copy a b c := by
  cases c with
  | keep => rfl
  | last => exact p.unmarked_assign a _
  | other =>
    have place : p.unmarked.place b = p.place b := by
      cases b <;> rfl
    unfold copy
    rw [place]
    exact p.unmarked_assign a _

theorem unmarked_refresh (p : PicturePool rows cols) (a : Reference) (refreshed : Bool) :
    (p.refresh a refreshed).unmarked = p.unmarked.refresh a refreshed := by
  cases refreshed with
  | false => rfl
  | true => exact p.unmarked_assign a _

theorem unmarked_commit (p : PicturePool rows cols) (u : ReferenceUpdate) :
    (p.commit u).unmarked = p.unmarked.commit u := by
  have replaced : (p.replaced u).unmarked = p.unmarked.replaced u := by
    unfold PicturePool.replaced
    rw [unmarked_refresh, unmarked_refresh, unmarked_refresh, unmarked_copy, unmarked_copy]
  rw [commit_eq, commit_eq, ← replaced]
  rfl

end PicturePool

end Vp8
