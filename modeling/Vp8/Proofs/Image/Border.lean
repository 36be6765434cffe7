import Vp8.Proofs.Image.Continuation

/-!
The border of a plane. It is filled in place in three passes: every row of the picture goes on to
both sides, then its first row is copied upwards and its last row downwards. All three put one image
on memory, the nearest pixel of the picture, so that what they overwrite does not matter.
-/
namespace Vp8

namespace Plane

variable {width height border w h : Nat} {S T : Region} {image : Int → Int → UInt8}
  {p q p' q' : Plane width height border}

structure Painted (S : Region) (image : Int → Int → UInt8) (p q : Plane width height border) :
    Prop where
  inside : ∀ x y, S x y → q.sample x y = image x y
  outside : ∀ x y, ¬ S x y → q.sample x y = p.sample x y

theorem Painted.nothing (p : Plane width height border) : Painted (fun _ _ => False) image p p :=
  ⟨fun _ _ => False.elim, fun _ _ _ => rfl⟩

theorem Painted.join (first : Painted S image p p') (second : Painted T image p' q) :
    Painted (fun x y => S x y ∨ T x y) image p q := by
  constructor
  · intro x y member
    by_cases last : T x y
    · exact second.inside x y last
    · rw [second.outside x y last]
      exact first.inside x y (member.resolve_right last)
  · intro x y member
    rw [second.outside x y fun last => member (.inr last)]
    exact first.outside x y fun old => member (.inl old)

theorem Painted.congr (painted : Painted S image p q) (same : ∀ x y, S x y ↔ T x y) :
    Painted T image p q :=
  ⟨fun x y member => painted.inside x y ((same x y).mpr member),
    fun x y member => painted.outside x y fun old => member ((same x y).mp old)⟩

theorem Painted.unique (first : Painted S image p q) (second : Painted S image p q') : q = q' := by
  apply ext_sample
  intro x y
  by_cases member : S x y
  · rw [first.inside x y member, second.inside x y member]
  · rw [first.outside x y member, second.outside x y member]

theorem store_painted (p : Plane width height border) {x y : Int} (block : Raster w h)
    (inside : Encloses width height border x y w h) (covers : Covers width height border x y w h)
    (shows : ∀ r c (row : r < h) (col : c < w), block[r][c] = image (x + c) (y + r)) :
    Painted (InBlock x y w h) image p (p.store x y block covers) := by
  constructor
  · intro u v member
    unfold store
    rw [sample_update p inside, dif_pos member]
    refine (shows _ _ _ _).trans ?_
    unfold InBlock at member
    congr 1 <;> omega
  · intro u v member
    unfold store
    rw [sample_update p inside, dif_neg member]

def Shows (S : Region) (image : Int → Int → UInt8) (p : Plane width height border) : Prop :=
  ∀ x y, S x y → p.sample x y = image x y

theorem Shows.store (shows : Shows S image p) {x y : Int} (block : Raster w h)
    (inside : Encloses width height border x y w h) (covers : Covers width height border x y w h)
    (same : ∀ r c (row : r < h) (col : c < w), block[r][c] = image (x + c) (y + r)) :
    Shows (fun u v => S u v ∨ InBlock x y w h u v) image (p.store x y block covers) := by
  have painted := p.store_painted block inside covers same
  intro u v member
  by_cases new : InBlock x y w h u v
  · exact painted.inside u v new
  · rw [painted.outside u v new]
    exact shows u v (member.resolve_right new)

theorem Shows.fill (shows : Shows S image p) {x y : Int} {value : UInt8}
    (inside : Encloses width height border x y w h) (covers : Covers width height border x y w h)
    (same : ∀ u v, InBlock x y w h u v → image u v = value) :
    Shows (fun u v => S u v ∨ InBlock x y w h u v) image (p.fill x y w h value covers) := by
  intro u v member
  unfold Plane.fill
  rw [sample_update p inside]
  split
  · rename_i new
    exact (same u v new).symm
  · rename_i old
    exact shows u v (member.resolve_right old)

theorem Shows.mono (shows : Shows S image p) (smaller : ∀ x y, T x y → S x y) : Shows T image p :=
  fun x y member => shows x y (smaller x y member)

def Rows (width border : Nat) (top bottom : Int) : Region := fun x y =>
  -border ≤ x ∧ x < width + border ∧ top ≤ y ∧ y < bottom

theorem Rows.split {top bottom u v : Int} (rows : Rows width border top bottom u v)
    (middle : Int) : Rows width border top middle u v ∨ Rows width border middle bottom u v := by
  unfold Rows at *
  omega

def extendSides (p : Plane width height border) (visible : Visible width height)
    (y : Fin height) : Plane width height border :=
  have wide := visible.1
  let first := p.pixel 0 y (Encloses.holds (by unfold Encloses; omega))
  let last := p.pixel (width - 1) y (Encloses.holds (by unfold Encloses; omega))
  (p.fill (-border) y border 1 first (Encloses.covers (by unfold Encloses; omega))).fill width y
    border 1 last (Encloses.covers (by unfold Encloses; omega))

def copyRow (p : Plane width height border) (y target : Int)
    (source : Encloses width height border (-border) y (width + 2 * border) 1)
    (inside : Encloses width height border (-border) target (width + 2 * border) 1) :
    Plane width height border :=
  p.store (-border) target (h := 1) (Raster.ofFn fun _ (c : Fin (width + 2 * border)) =>
    p.pixel (-border + c) y (Encloses.holds (by unfold Encloses at *; omega))) inside.covers

def extendInPlace (p : Plane width height border) (visible : Visible width height) :
    Plane width height border :=
  have high := visible.2
  let p := Fin.foldl height (fun p y => p.extendSides visible y) p
  let p := Fin.foldl border (fun p k => p.copyRow 0 (k - border) (by unfold Encloses; omega)
    (by unfold Encloses; omega)) p
  Fin.foldl border (fun p k => p.copyRow (height - 1) (height + k) (by unfold Encloses; omega)
    (by unfold Encloses; omega)) p

variable {visible : Visible width height} {source : Plane width height border}

theorem extended_congr (source : Plane width height border) {x y u v : Int}
    (column : clampCoordinate width x = clampCoordinate width u)
    (row : clampCoordinate height y = clampCoordinate height v) :
    source.extended visible x y = source.extended visible u v := by
  rw [extended_eq_sample, extended_eq_sample, column, row]

theorem Shows.extendSides {y : Fin height} (shows : Shows S (source.extended visible) p)
    (inner : ∀ u v, Inner width height u v → S u v) :
    Shows (fun u v => S u v ∨ Rows width border y (y + 1) u v) (source.extended visible)
      (p.extendSides visible y) := by
  have wide := visible.1
  have ends (u : Int) (pixel : Inner width height u y) (holds : Holds width height border u y) :
      p.pixel u y holds = source.extended visible u y := by
    unfold Inner at pixel
    rw [pixel_eq_sample p (by unfold Encloses; omega)]
    exact shows u y (inner u y pixel)
  unfold Plane.extendSides
  dsimp only
  rw [ends 0 (by unfold Inner; omega), ends (width - 1) (by unfold Inner; omega)]
  have left : ∀ u v, InBlock (-border) y border 1 u v →
      source.extended visible u v = source.extended visible 0 y := by
    intro u v block
    apply extended_congr <;> unfold clampCoordinate saturate <;> omega
  have right : ∀ u v, InBlock width y border 1 u v →
      source.extended visible u v = source.extended visible (width - 1) y := by
    intro u v block
    apply extended_congr <;> unfold clampCoordinate saturate <;> omega
  refine ((shows.fill (by unfold Encloses; omega) _ left).fill (by unfold Encloses; omega) _
    right).mono ?_
  intro u v member
  rcases member with old | row
  · exact .inl (.inl old)
  · by_cases pixel : Inner width height u v
    · exact .inl (.inl (inner u v pixel))
    · unfold Inner at pixel
      unfold Rows at row
      unfold InBlock
      omega

theorem Shows.copyRow {y target : Int} (shows : Shows S (source.extended visible) p)
    (held : Encloses width height border (-border) y (width + 2 * border) 1)
    (inside : Encloses width height border (-border) target (width + 2 * border) 1)
    (row : ∀ u v, Rows width border y (y + 1) u v → S u v)
    (nearest : clampCoordinate height target = clampCoordinate height y) :
    Shows (fun u v => S u v ∨ Rows width border target (target + 1) u v) (source.extended visible)
      (p.copyRow y target held inside) := by
  unfold Plane.copyRow
  refine (shows.store _ inside _ ?_).mono ?_
  · intro r c first column
    obtain rfl : r = 0 := by omega
    have shown := shows (-border + c) y (row _ _ (by unfold Rows; omega))
    simp only [Raster.ofFn, Vector.getElem_ofFn]
    rw [pixel_eq_sample p (by unfold Encloses at *; omega), shown]
    apply extended_congr
    · rfl
    · simp [nearest]
  · intro u v member
    rcases member with old | new
    · exact .inl old
    · right
      unfold Rows at new
      unfold InBlock
      omega

theorem sides_show (p : Plane width height border) (visible : Visible width height) :
    Shows (Rows width border 0 height) (p.extended visible)
      (Fin.foldl height (fun q y => q.extendSides visible y) p) := by
  have done := foldl_invariant (a := p) (f := fun q (y : Fin height) => q.extendSides visible y)
    (fun k => Shows (fun u v => Inner width height u v ∨ Rows width border 0 k u v)
      (p.extended visible)) ?_ ?_
  · exact done.mono fun u v => .inr
  · intro k q shows
    refine (shows.extendSides fun u v => .inl).mono ?_
    intro u v member
    rcases member with inner | rows
    · exact .inl (.inl inner)
    · rcases rows.split k with done | new
      · exact .inl (.inr done)
      · exact .inr (by simpa using new)
  · intro u v member
    rcases member with inner | nowhere
    · exact (p.extended_inner visible inner).symm
    · unfold Rows at nowhere
      omega

/-- One row of memory that already goes on to its sides, over as many rows as the border has. -/
theorem Shows.copyRows {y : Int} (start : Int) {target : Fin border → Int}
    (shows : Shows S (source.extended visible) p)
    (held : Encloses width height border (-border) y (width + 2 * border) 1)
    (room : ∀ k, Encloses width height border (-border) (target k) (width + 2 * border) 1)
    (row : ∀ u v, Rows width border y (y + 1) u v → S u v)
    (place : ∀ k : Fin border, target k = start + k)
    (nearest : ∀ k, clampCoordinate height (target k) = clampCoordinate height y) :
    Shows (fun u v => S u v ∨ Rows width border start (start + border) u v)
      (source.extended visible)
      (Fin.foldl border (fun q k => q.copyRow y (target k) held (room k)) p) := by
  apply foldl_invariant (a := p) (f := fun q k => q.copyRow y (target k) held (room k))
    fun k => Shows (fun u v => S u v ∨ Rows width border start (start + k) u v)
      (source.extended visible)
  · intro k q shows
    refine (shows.copyRow held (room k) ?_ (nearest k)).mono ?_
    · intro u v member
      exact .inl (row u v member)
    · rintro u v (old | rows)
      · exact .inl (.inl old)
      · rw [place]
        rcases rows.split (start + k) with done | new
        · exact .inl (.inr done)
        · right
          unfold Rows at *
          omega
  · apply shows.mono
    rintro u v (old | nowhere)
    · exact old
    · unfold Rows at nowhere
      omega

/-- The three passes continue a plane over its border. -/
theorem extendInPlace_eq (p : Plane width height border) (visible : Visible width height) :
    p.extendInPlace visible = p.extend := by
  have high := visible.2
  have sides := p.sides_show visible
  have shows : Shows (fun u v => (Rows width border 0 height u v ∨
      Rows width border (-border) (-border + border) u v) ∨
        Rows width border height (height + border) u v) (p.extended visible)
      (p.extendInPlace visible) := by
    refine (sides.copyRows (-border) _ _ ?_ ?_ ?_).copyRows height _ _ ?_ ?_ ?_
    · intro u v row
      unfold Rows at *
      omega
    · intro k
      omega
    · intro k
      unfold clampCoordinate saturate
      omega
    · intro u v row
      unfold Rows at *
      omega
    · intro k
      rfl
    · intro k
      unfold clampCoordinate saturate
      omega
  apply ext_sample
  intro x y
  by_cases inside : Encloses width height border x y 1 1
  · rw [sample_extend_nearest p visible inside]
    apply shows
    unfold Encloses at inside
    unfold Rows
    omega
  · unfold sample
    rw [dif_neg inside, dif_neg inside]

end Plane

end Vp8
