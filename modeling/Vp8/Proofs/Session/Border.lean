import Vp8.Proofs.Image.Border
import Vp8.Proofs.Prediction.Checked
import Vp8.Proofs.Session.ZeroMotion

/-!
The borders of the references. Whatever packets a session was given, every reference goes on over
its border, so that a window on it may be read from memory as it is.
-/
namespace Vp8

namespace Plane

variable {width height border w h : Nat} {p : Plane width height border}

def excerpt (p : Plane width height border) (x y : Int) (w h : Nat)
    (inside : Encloses width height border x y w h) : Raster w h :=
  Raster.ofFn fun r c => p.pixel (x + c) (y + r)
    (inside.covers.holds (by omega) (by omega) (by omega) (by omega))

theorem window_eq_excerpt (continued : p.extend = p) (visible : Visible width height) {x y : Int}
    (inside : Encloses width height border x y w h) :
    p.window x y w h = p.excerpt x y w h inside := by
  unfold window excerpt
  rw [dif_pos visible]
  congr 1
  funext r c
  have place : Encloses width height border (x + c) (y + r) 1 1 := by
    unfold Encloses at *
    omega
  rw [pixel_eq_sample p place, ← sample_extend_nearest p visible place, continued]

/-- Memory holds the picture as it goes on beyond its edges: in every byte the nearest pixel, and in
    every block what a window shows there, whichever way its rows are read. -/
structure Replicated (p : Plane width height border) : Prop where
  visible : Visible width height
  nearest : ∀ {x y : Int} (inside : Encloses width height border x y 1 1),
    p.pixel x y inside.holds =
      p.pixel (clampCoordinate width x) (clampCoordinate height y) (visible.holds x y)
  window : ∀ {x y : Int} {w h : Nat} (inside : Encloses width height border x y w h),
    p.window x y w h = p.excerpt x y w h inside
  checked : ∀ {x y : Int} {w h : Nat} (inside : Encloses width height border x y w h),
    p.window? x y w h = some (p.excerpt x y w h inside)

theorem replicated_of_continued (continued : p.extend = p) (visible : Visible width height) :
    p.Replicated where
  visible := visible
  nearest inside := by
    have byte := p.sample_extend_nearest visible inside
    rw [continued] at byte
    rw [pixel_eq_sample p inside, byte]
    rfl
  window inside := window_eq_excerpt continued visible inside
  checked inside := by
    rw [window?_eq visible, window_eq_excerpt continued visible inside]

end Plane

structure Picture.Replicated {rows cols : Nat} (p : Picture rows cols) : Prop where
  luma : p.luma.Replicated
  cb : p.cb.Replicated
  cr : p.cr.Replicated

theorem Picture.Continued.replicated {rows cols : Nat} {p : Picture rows cols}
    (continued : p.Continued) (visible : 0 < rows ∧ 0 < cols) : p.Replicated where
  luma := Plane.replicated_of_continued continued.luma ⟨by omega, by omega⟩
  cb := Plane.replicated_of_continued continued.cb ⟨by omega, by omega⟩
  cr := Plane.replicated_of_continued continued.cr ⟨by omega, by omega⟩

namespace Session

variable {s : Session}

/-- The references of every session that calls lead to hold their edges repeated over their borders.
    To continue any plane with pixels takes three passes in place, leaves the picture alone, and
    changes nothing when it is done again. -/
theorem reference_borders_repeat_edges (reachable : s.Reachable) :
    (∀ t, s.stream = some t → ∀ a, a ≠ .current → (t.pool.picture a).Replicated) ∧
      ∀ {width height border : Nat} (p : Plane width height border)
        (visible : Plane.Visible width height),
        p.extendInPlace visible = p.extend ∧ p.extend.extendInPlace visible = p.extend ∧
          ∀ x y, Plane.Inner width height x y → p.extend.sample x y = p.sample x y := by
  constructor
  · intro t stream a other
    have continued := reachable.keeps Stream.continued_invariant t stream
    exact (continued.references a other).replicated continued.visible.blocks
  · intro width height border p visible
    refine ⟨p.extendInPlace_eq visible, ?_, fun x y inner => p.sample_extend inner⟩
    rw [Plane.extendInPlace_eq, p.extend_extend visible]

theorem changed_borders_repeat_edges :
    changed.Reachable ∧ ∃ t, changed.stream = some t ∧ (t.pool.picture .last).Replicated ∧
      (t.pool.picture .golden).Replicated ∧ (t.pool.picture .altref).Replicated := by
  have started : changed.stream.isSome = true := by decide +kernel
  obtain ⟨t, stream⟩ := Option.isSome_iff_exists.mp started
  have replicated := (reference_borders_repeat_edges changed_reachable).1 t stream
  exact ⟨changed_reachable, t, stream, replicated .last (by decide), replicated .golden (by decide),
    replicated .altref (by decide)⟩

end Session

end Vp8
