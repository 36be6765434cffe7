import Vp8.Proofs.Frame.Completion
import Vp8.Proofs.Session.Reachable

/-!
What a session does with a packet once its headers are read. As long as the pool counts its
references, there is a target, a source for every macroblock and a partition for every row, so that
nothing but a keyframe without enough data is lost.
-/
namespace Vp8

namespace Partition

theorem cut_ne_nil {data : ByteArray} {number start : Nat} {sizes : List Nat}
    {parts : List ByteArray} (done : cut data number start sizes = .ok parts) : parts ≠ [] := by
  cases sizes with
  | nil =>
    unfold cut at done
    split at done
    · contradiction
    · cases done
      exact List.cons_ne_nil _ _
  | cons size sizes =>
    unfold cut at done
    split at done
    · contradiction
    · obtain ⟨rest, _, done⟩ := bind_ok.mp done
      cases done
      exact List.cons_ne_nil _ _

theorem split_ne_nil {data : ByteArray} {start count : Nat} {parts : List ByteArray}
    (done : split data start count = .ok parts) : parts ≠ [] := by
  unfold split at done
  dsimp only at done
  split at done
  · exact cut_ne_nil done
  · contradiction

end Partition

namespace Headers

variable {packet : ByteArray} {preamble : Preamble} {carried : Carried} {h : Headers}

theorem read_partitions (read : Headers.read packet preamble carried = .ok h) :
    h.partitions ≠ [] := by
  obtain ⟨header, partitions, _, cut, rfl⟩ := read_ok.mp read
  exact Partition.split_ne_nil cut

theorem read_tag (read : Headers.read packet preamble carried = .ok h) :
    h.tag = preamble.tag := by
  obtain ⟨header, partitions, _, _, rfl⟩ := read_ok.mp read
  rfl

variable {rows cols : Nat} {p r : PicturePool rows cols}

theorem setup_picture? (h : Headers) (acquired : p.Acquired r) {a : Reference}
    (other : a ≠ .current) : (h.setup r).sources.picture? a = some (p.picture a) := by
  cases a with
  | current => contradiction
  | last | golden | altref => exact acquired.reference? other

theorem setup_full (h : Headers) (acquired : p.Acquired r) : (h.setup r).sources.Full := by
  intro a other
  exact ⟨_, h.setup_picture? acquired other⟩

theorem setup_damages (h : Headers) (acquired : p.Acquired r) (a : Reference) :
    (h.setup r).sources.Damages a ↔ a ≠ .current ∧ (p.picture a).damaged = true := by
  unfold Sources.Damages
  by_cases current : a = .current
  · rw [current]
    simp only [Sources.picture?, reduceCtorEq, false_and, exists_false, ne_eq, not_true_eq_false]
  · rw [h.setup_picture? acquired current]
    simp only [Option.some.injEq, exists_eq_left', ne_eq, current, not_false_eq_true, true_and]

end Headers

namespace Stream

variable {t : Stream} {h : Headers}

def Spoils (t : Stream) (h : Headers) : Prop :=
  ∃ y x, ((t.modes h).1.get y x).reference ≠ .current ∧
    (t.pool.picture ((t.modes h).1.get y x).reference).damaged = true

theorem reconstruct_completes
    {pool : PicturePool (macroblocksFor t.height) (macroblocksFor t.width)}
    (has : t.pool.Acquired pool) (some : h.partitions ≠ []) :
    ∃ done, reconstructFrame (h.setup pool) (pool.picture .current) (t.modes h).1 h.partitions =
        .ok done ∧ (done.picture.damaged = true ↔ t.Spoils h) := by
  obtain ⟨done, reconstructed, damaged⟩ :=
    reconstructFrame_completes (h.setup_full has) (pool.picture .current) (t.modes h).1 some
  refine ⟨done, reconstructed, ?_⟩
  rw [damaged]
  unfold Sources.Spoils Spoils
  simp only [true_and, h.setup_damages has]

theorem decode_completes (balanced : t.pool.Balanced) (some : h.partitions ≠ []) :
    ∃ pool done, t.pool.acquire = .ok pool ∧ t.pool.Acquired pool ∧
      t.decode h = t.conclude h pool done (done.overrun || (t.modes h).2.overrun) ∧
      (done.picture.damaged = true ↔ t.Spoils h) := by
  obtain ⟨pool, acquired, has⟩ := PicturePool.acquire_balanced balanced
  obtain ⟨done, reconstructed, damaged⟩ := reconstruct_completes has some
  exact ⟨pool, done, acquired, has, decode_of_ok acquired reconstructed, damaged⟩

/-- Only a keyframe without enough data is lost. -/
theorem decode_error {e : DecodeError} (balanced : t.pool.Balanced) (some : h.partitions ≠ [])
    (failed : (t.decode h).2 = .error e) :
    h.tag.keyframe = true ∧ e = .corruptFrame .keyframeEndsEarly := by
  obtain ⟨pool, done, _, _, decoded, _⟩ := decode_completes balanced some
  rw [decoded] at failed
  by_cases lost : ((done.overrun || (t.modes h).2.overrun) && h.tag.keyframe) = true
  · rw [conclude_lost lost] at failed
    cases failed
    exact ⟨(Bool.and_eq_true_iff.mp lost).2, rfl⟩
  · rw [conclude_kept lost] at failed
    contradiction

end Stream

end Vp8
