import Vp8.Proofs.Frame.Copy
import Vp8.Proofs.Image.Continuation
import Vp8.Proofs.Image.References
import Vp8.Proofs.Session.Completion
import Vp8.Proofs.Session.Equivalence
import Vp8.Proofs.Session.Persistence

/-!
Frames without motion. All references of a session go on over their borders, since a frame is
continued before it becomes one, so that a frame which repeats a reference inside the picture and is
not deblocked repeats all of it.
-/
namespace Vp8

namespace FilterSettings

theorem ofHeader_off (sharpness : Nat) (kind : FilterKind) (keyframe : Bool) :
    (ofHeader 0 sharpness kind keyframe).level = 0 := Nat.zero_min _

end FilterSettings

namespace Picture

variable {rows cols : Nat} {p reference : Picture rows cols}

theorem deblock_off {settings : FilterSettings} (off : settings.level = 0)
    (level : Macroblock → Nat) (g : Grid rows cols) : p.deblock settings level g = p := if_pos off

theorem Copied.extend (copied : Copied reference rows 0 p) (visible : 0 < rows ∧ 0 < cols)
    (continued : reference.Continued) :
    p.extend = { reference with damaged := p.damaged } := by
  have luma : p.luma.extend = reference.luma := by
    have inside : p.luma.Agree (Plane.Inner (16 * cols) (16 * rows)) reference.luma :=
      copied.luma.mono fun x y inner => by unfold Plane.Inner at inner; unfold Plane.Done; omega
    rw [inside.extend ⟨by omega, by omega⟩, continued.luma]
  have chroma {q r : Plane (8 * cols) (8 * rows) 16}
      (same : q.Agree (Plane.Done (8 * cols) (8 * 0) (8 * rows) 8) r) (goesOn : r.extend = r) :
      q.extend = r := by
    have inside : q.Agree (Plane.Inner (8 * cols) (8 * rows)) r :=
      same.mono fun x y inner => by unfold Plane.Inner at inner; unfold Plane.Done; omega
    rw [inside.extend ⟨by omega, by omega⟩, goesOn]
  unfold Picture.extend
  rw [luma, chroma copied.cb continued.cb, chroma copied.cr continued.cr]

end Picture

namespace Stream

variable {t : Stream} {h : Headers}

/-- The pictures have a size, and all references go on over their borders. -/
structure Continued (t : Stream) : Prop where
  balanced : t.pool.Balanced
  visible : t.Visible
  references : ∀ a, a ≠ .current → (t.pool.picture a).Continued

theorem Visible.blocks (visible : t.Visible) :
    0 < macroblocksFor t.height ∧ 0 < macroblocksFor t.width :=
  ⟨macroblocksFor_pos visible.2, macroblocksFor_pos visible.1⟩

theorem finish_continued {rows cols : Nat} (h : Headers) (p : Picture rows cols)
    (g : Grid rows cols) (overrun : Bool) (visible : 0 < rows ∧ 0 < cols) :
    (finish h p g overrun).Continued := by
  obtain ⟨luma, cb, cr⟩ := (p.deblock (FilterSettings.ofHeader h.header.filterLevel
    h.header.sharpness h.header.filterKind h.tag.keyframe) (FilterLevel.ofMacroblock
    h.header.filterLevel h.carried.segmentation h.carried.adjustment) g).extend_continued visible
  exact ⟨luma, cb, cr⟩

theorem Continued.conclude (continued : t.Continued)
    {pool : PicturePool (macroblocksFor t.height) (macroblocksFor t.width)}
    (acquired : t.pool.Acquired pool)
    (done : Reconstruction (macroblocksFor t.height) (macroblocksFor t.width)) (overrun : Bool) :
    ∀ a, a ≠ .current → ((t.conclude h pool done overrun).1.pool.picture a).Continued := by
  intro a other
  by_cases lost : (overrun && h.tag.keyframe) = true
  · rw [conclude_lost lost]
    change ((pool.setPicture .current done.picture).picture a).Continued
    rw [(acquired.setPicture _).picture a other]
    exact continued.references a other
  · rw [conclude_kept lost]
    dsimp only
    rw [PicturePool.picture_commit_origin _ _ other]
    by_cases current : h.header.references.origin a = .current
    · rw [current, PicturePool.picture_current]
      exact finish_continued h _ _ _ continued.visible.blocks
    · rw [(acquired.setPicture _).picture _ current]
      exact continued.references _ current

theorem Continued.decode (continued : t.Continued) (h : Headers) : (t.decode h).1.Continued where
  balanced := decode_balanced h continued.balanced
  visible := decode_visible h continued.visible
  references := by
    obtain ⟨pool, acquire, acquired⟩ := PicturePool.acquire_balanced continued.balanced
    rw [decode_eq, acquire]
    dsimp only
    split
    · intro a other
      change (pool.picture a).Continued
      rw [acquired.picture a other]
      exact continued.references a other
    · exact continued.conclude acquired _ _

theorem Continued.markLastDamaged (continued : t.Continued) : t.markLastDamaged.Continued where
  balanced := PicturePool.markDamaged_balanced continued.balanced _
  visible := continued.visible
  references := by
    intro a other
    unfold Stream.markLastDamaged PicturePool.markDamaged
    dsimp only
    rw [PicturePool.picture_setPicture]
    split
    · obtain ⟨luma, cb, cr⟩ := continued.references .last (by decide)
      exact ⟨luma, cb, cr⟩
    · exact continued.references a other

theorem continued_invariant : Invariant Continued where
  blank size visible := {
    balanced := blank_balanced size
    visible := visible
    references := by
      intro a _
      have same : (blank size).pool.picture a = .blank _ _ := by
        cases a <;> rfl
      rw [same]
      exact Picture.blank_continued }
  rescale continued _ _ :=
    ⟨continued.balanced, continued.visible, continued.references⟩
  decode continued h := continued.decode h
  markLastDamaged continued := continued.markLastDamaged

def coefficients (t : Stream) (h : Headers) : List Coefficients :=
  scanCoefficients h.carried.entropy.coefficients (t.modes h).1 h.partitions

/-- All macroblocks of a frame are predicted from one reference, without motion. -/
def Rests (t : Stream) (h : Headers) (a : Reference) : Prop :=
  ∀ r c, ((t.modes h).1.get r c).mode = .zero ∧ ((t.modes h).1.get r c).reference = a

instance (t : Stream) (h : Headers) (a : Reference) : Decidable (t.Rests h a) :=
  inferInstanceAs (Decidable (∀ _ _, _))

theorem Rests.still {a : Reference} (rests : t.Rests h a) (r : Fin (macroblocksFor t.height))
    (c : Fin (macroblocksFor t.width)) : ((t.modes h).1.get r c).Still a := by
  obtain ⟨mode, reference⟩ := rests r c
  have resting := (Grid.readModes_yields (Macroblock.read_resting h.modeContext) t.grid).read
    h.reader r c
  obtain ⟨vector, unlimited⟩ := resting mode
  exact ⟨mode, vector, unlimited, reference⟩

/-- A frame at rest is damaged if its reference is. -/
theorem Rests.spoils {a : Reference} (rests : t.Rests h a) (visible : t.Visible)
    (other : a ≠ .current) : t.Spoils h ↔ (t.pool.picture a).damaged = true := by
  unfold Spoils
  constructor
  · rintro ⟨r, c, _, damaged⟩
    rw [(rests r c).2] at damaged
    exact damaged
  · intro damaged
    have first := (rests ⟨0, visible.blocks.1⟩ ⟨0, visible.blocks.2⟩).2
    refine ⟨⟨0, visible.blocks.1⟩, ⟨0, visible.blocks.2⟩, ?_⟩
    rw [first]
    exact ⟨other, damaged⟩

theorem finish_copy {rows cols : Nat} {p reference : Picture rows cols}
    (unfiltered : h.header.filterLevel = 0) (copied : reference.Copied rows 0 p)
    (visible : 0 < rows ∧ 0 < cols) (continued : reference.Continued)
    (damaged : p.damaged = reference.damaged) (g : Grid rows cols) :
    finish h p g false = reference := by
  unfold finish
  dsimp only
  rw [unfiltered, Picture.deblock_off (FilterSettings.ofHeader_off _ _ _),
    copied.extend visible continued, damaged, Bool.or_false]

theorem Continued.frame (continued : t.Continued) (some : h.partitions ≠ []) {a : Reference}
    (other : a ≠ .current) (unfiltered : h.header.filterLevel = 0) (rests : t.Rests h a)
    (blank : ∀ k ∈ t.coefficients h, k = .zero) (decoded : (t.decode h).2 = .ok false)
    (tag : FrameTag) :
    (t.decode h).1.frame tag = { t.frame tag with picture := t.pool.picture a } := by
  obtain ⟨pool, done, acquire, reconstructed, whole⟩ := decode_ok decoded
  obtain ⟨_, same, acquired⟩ := PicturePool.acquire_balanced continued.balanced
  cases acquire.symm.trans same
  -- the same reconstruction, once for its picture and once for its damage
  obtain ⟨_, same, spoilt⟩ := reconstruct_completes acquired some
  cases reconstructed.symm.trans same
  have copied := reconstructFrame_copies (h.setup_picture? acquired other) rests.still blank
    reconstructed
  have damaged := Bool.eq_iff_iff.mpr (spoilt.trans (rests.spoils continued.visible other))
  have finished := finish_copy unfiltered copied continued.visible.blocks
    (continued.references a other) damaged done.grid
  rw [decode_of_ok acquire reconstructed, whole,
    conclude_kept (by rw [Bool.false_and]; exact Bool.false_ne_true)]
  unfold Stream.frame
  dsimp only
  rw [PicturePool.commit_shown, PicturePool.picture_current, finished]

end Stream

namespace Session

variable {s : Session} {memory : Memory} {packet : ByteArray} {frame : Frame}

/-- An accepted frame without motion, coefficients and deblocking shows the reference that its
    macroblocks are predicted from, with all of its border. The rest of the header has no say. -/
theorem zero_motion_copies (reachable : s.Reachable) (inter : isKeyframe packet = false)
    (accepted : (s.decode memory packet).2 = .ok frame) {t : Stream} (stream : s.stream = some t)
    {before : Carried} {h : Headers} (headers : s.headers memory packet = .ok (before, h))
    (unfiltered : h.header.filterLevel = 0) {a : Reference} (other : a ≠ .current)
    (rests : t.Rests h a) (blank : ∀ k ∈ t.coefficients h, k = .zero) :
    frame = { t.frame h.tag with picture := t.pool.picture a } := by
  obtain ⟨preamble, u, start, g, parsed, entered, read, decoded, shown⟩ := decode_begun accepted
  obtain ⟨_, _, parsed', entered', read'⟩ := headers_ok.mp headers
  cases parsed.symm.trans parsed'
  cases entered.symm.trans entered'
  cases read.symm.trans read'
  cases stream.symm.trans (enter_inter parsed inter entered)
  have continued := reachable.keeps Stream.continued_invariant t stream
  rw [← shown]
  exact continued.frame (Headers.read_partitions read) other unfiltered rests blank decoded h.tag

theorem golden_accepted : (changed.decode .ample goldenFrame).2.toBool = true := by decide +kernel

theorem golden_rests :
    (changed.stream.bind fun t => (changed.headers .ample goldenFrame).toOption.map fun read =>
      decide (read.2.header.filterLevel = 0 ∧ t.Rests read.2 .golden ∧
        ∀ k ∈ t.coefficients read.2, k = .zero)) = some true := by decide +kernel

theorem golden_frame_copies :
    ∃ frame t before h, (changed.decode .ample goldenFrame).2 = .ok frame ∧
      changed.stream = some t ∧ changed.headers .ample goldenFrame = .ok (before, h) ∧
      h.header.filterLevel = 0 ∧
      t.Rests h .golden ∧ (∀ k ∈ t.coefficients h, k = .zero) ∧
      frame = { t.frame h.tag with picture := t.pool.picture .golden } := by
  obtain ⟨frame, accepted⟩ := ok_of_toBool golden_accepted
  obtain ⟨t, stream, rest⟩ := Option.bind_eq_some_iff.mp golden_rests
  obtain ⟨⟨before, h⟩, read, rest⟩ := Option.map_eq_some_iff.mp rest
  obtain ⟨unfiltered, rests, blank⟩ := of_decide_eq_true rest
  have headers := ok_of_toOption read
  exact ⟨frame, t, before, h, accepted, stream, headers, unfiltered, rests, blank,
    zero_motion_copies changed_reachable (by decide +kernel) accepted stream headers unfiltered
      (by decide) rests blank⟩

end Session

end Vp8
