import Vp8.Frame.Header
import Vp8.Proofs.Entropy.Coded

/-!
What headers say whatever their bits are: one of a keyframe replaces every reference, any one has a
last partition, and only those with segments update their map.
-/
namespace Vp8

namespace Segmentation

theorem readData_enabled {s : Segmentation} (enabled : s.enabled = true) :
    s.readData.Yields (·.enabled = true) := by
  unfold readData
  iterate 3 refine Coded.Yields.after _ fun _ => ?_
  exact enabled

theorem readTreeProbs_enabled {s : Segmentation} (enabled : s.enabled = true) :
    s.readTreeProbs.Yields (·.enabled = true) := by
  unfold readTreeProbs
  refine Coded.Yields.after _ fun _ => ?_
  exact enabled

theorem read_enabled (s : Segmentation) :
    s.read.Yields fun s => s.updateMap = true → s.enabled = true := by
  unfold read
  refine Coded.Yields.after _ fun enabled => ?_
  cases enabled with
  | false => exact nofun
  | true =>
    refine Coded.Yields.after _ fun updateMap => Coded.Yields.after _ fun updateData => ?_
    have rest (s : Segmentation) (enabled : s.enabled = true) :
        (if updateMap then s.readTreeProbs else pure s).Yields fun s =>
          s.updateMap = true → s.enabled = true := by
      split
      · exact (readTreeProbs_enabled enabled).mono fun _ enabled _ => enabled
      · exact fun _ => enabled
    dsimp only
    split
    · exact (readData_enabled rfl).bind rest
    · exact rest _ rfl

end Segmentation

namespace FrameHeader

theorem readRest_keyframe (start : Start) (signBias : SignBias) (entropy : EntropyTables) :
    Coded.Related (fun a _ => a.1.references = .all) (readRest true start .all signBias entropy)
      (readRest true start .all signBias entropy) := by
  unfold readRest
  apply Coded.Related.bind_same
  intro refreshEntropy
  -- the refresh of the last frame is not coded
  apply (Coded.Related.value (R := fun a b => a = true ∧ b = true) ⟨rfl, rfl⟩).bind
  rintro _ _ ⟨rfl, rfl⟩
  apply Coded.Related.bind_same
  intro tables
  apply Coded.Related.bind_same
  intro skipProb
  exact .value rfl

theorem read_keyframe (c : Carried) :
    Coded.Related (fun a _ => ∀ header, a.1 = .ok header → header.references = .all) (read true c)
      (read true c) := by
  unfold read
  apply Coded.Related.bind_same
  intro start
  apply (readRest_keyframe _ _ _).bind
  intro rest _ all
  apply Coded.Related.value
  intro header same
  cases same
  exact all

theorem readStart_partitions (keyframe : Bool) (c : Carried) :
    (readStart keyframe c).Yields fun a => 1 ≤ a.1.partitions := by
  unfold readStart
  cases keyframe
  all_goals
    iterate 9 refine Coded.Yields.after _ fun _ => ?_
    -- the number is a power of two, whatever was read
    exact Nat.one_shiftLeft _ ▸ Nat.one_le_two_pow

theorem readRest_partitions (keyframe : Bool) (start : Start) (references : ReferenceUpdate)
    (signBias : SignBias) (entropy : EntropyTables) :
    (readRest keyframe start references signBias entropy).Yields
      fun a => a.1.partitions = start.partitions := by
  unfold readRest
  cases keyframe with
  | true =>
    iterate 4 refine Coded.Yields.after _ fun _ => ?_
    exact rfl
  | false =>
    iterate 9 refine Coded.Yields.after _ fun _ => ?_
    exact rfl

theorem read_partitions (keyframe : Bool) (c : Carried) :
    (read keyframe c).Yields fun a => ∀ header, a.1 = .ok header → 1 ≤ header.partitions := by
  unfold read
  apply (readStart_partitions keyframe c).bind
  intro start some
  refine Coded.Yields.after _ fun references => ?_
  cases references with
  | none =>
    intro header same
    contradiction
  | some references =>
    apply (readRest_partitions _ start.1 _ _ _).bind
    intro rest partitions header same
    cases same
    exact partitions ▸ some

theorem readStart_enabled (keyframe : Bool) (c : Carried) :
    (readStart keyframe c).Yields fun a =>
      a.2.segmentation.updateMap = true → a.2.segmentation.enabled = true := by
  unfold readStart
  cases keyframe
  all_goals
    iterate 2 refine Coded.Yields.after _ fun _ => ?_
    refine c.segmentation.read_enabled.bind fun segmentation enabled => ?_
    iterate 6 refine Coded.Yields.after _ fun _ => ?_
    exact enabled

theorem read_enabled (keyframe : Bool) (c : Carried) :
    (read keyframe c).Yields fun a =>
      a.2.segmentation.updateMap = true → a.2.segmentation.enabled = true := by
  unfold read
  refine (readStart_enabled keyframe c).bind fun start enabled => ?_
  refine Coded.Yields.after _ fun references => ?_
  cases references with
  | none => exact enabled
  | some references =>
    refine Coded.Yields.after _ fun rest => ?_
    exact enabled

end FrameHeader

end Vp8
