import Vp8.Frame.Preamble
import Vp8.Proofs.Frame.Lockstep
import Vp8.Session

/-!
Accepted preambles: what it takes, what the first bit of the packet says, and that nothing behind
the preamble matters.
-/
namespace Vp8

variable {data : ByteArray}

theorem word16_append (rest : ByteArray) {i : Nat} (inside : i + 2 ≤ data.size)
    (inside' : i + 2 ≤ (data ++ rest).size) :
    word16 (data ++ rest) i inside' = word16 data i inside := by
  unfold word16
  rw [ByteArray.getElem_append_left (by omega), ByteArray.getElem_append_left (by omega)]

theorem word24_append (rest : ByteArray) {i : Nat} (inside : i + 3 ≤ data.size)
    (inside' : i + 3 ≤ (data ++ rest).size) :
    word24 (data ++ rest) i inside' = word24 data i inside := by
  unfold word24
  rw [ByteArray.getElem_append_left (by omega), ByteArray.getElem_append_left (by omega),
    ByteArray.getElem_append_left (by omega)]

theorem FrameTag.parse_append {tag : FrameTag} (parsed : parse data = .ok tag)
    (rest : ByteArray) : parse (data ++ rest) = .ok tag := by
  unfold parse at parsed ⊢
  split at parsed
  · rename_i long
    have longer : 3 ≤ (data ++ rest).size := by rw [ByteArray.size_append]; omega
    rw [dif_pos longer, word24_append rest long]
    exact parsed
  · contradiction

theorem FrameTag.parse_long {tag : FrameTag} (parsed : parse data = .ok tag) :
    tagSize ≤ data.size := by
  unfold parse at parsed
  split at parsed
  · assumption
  · contradiction

theorem FrameTag.parse_keyframe {tag : FrameTag} (parsed : parse data = .ok tag) :
    tag.keyframe = isKeyframe data := by
  unfold parse at parsed
  split at parsed
  · rename_i long
    cases parsed
    have first : (data[0].toNat + 256 * data[0 + 1].toNat + 65536 * data[0 + 2].toNat) % 2 =
        (data[0] % 2).toNat := by
      rw [UInt8.toNat_mod]
      change _ = data[0].toNat % 2
      omega
    have some : tagSize ≤ data.size := long
    unfold isKeyframe ofWord word24 BoolReader.byteAt
    rw [decide_eq_true some, dif_pos (by omega), Bool.true_and]
    dsimp only
    rw [first, Bool.eq_iff_iff, beq_iff_eq, beq_iff_eq, ← UInt8.toNat_inj]
    rfl
  · contradiction

namespace Preamble

theorem parse_ok {preamble : Preamble} :
    parse data = .ok preamble ↔
      ∃ tag, FrameTag.parse data = .ok tag ∧ tag.version ≤ 3 ∧
        tag.firstPartitionSize ≤ data.size - tagSize ∧
        (if tag.keyframe then parseKeyframe tag data
          else .ok { tag, keyframeSize := none, size := tagSize }) = .ok preamble := by
  unfold parse
  rw [bind_ok]
  refine exists_congr fun tag => and_congr_right fun _ => ?_
  by_cases version : 3 < tag.version
  · rw [if_pos version]
    exact ⟨nofun, fun ⟨supported, _⟩ => absurd version (by omega)⟩
  · rw [if_neg version]
    by_cases size : data.size - tagSize < tag.firstPartitionSize
    · rw [if_pos size]
      exact ⟨nofun, fun ⟨_, fits, _⟩ => absurd size (by omega)⟩
    · rw [if_neg size]
      change (if tag.keyframe = true then _ else _) = _ ↔ _
      exact ⟨fun done => ⟨by omega, by omega, done⟩, fun ⟨_, _, done⟩ => done⟩

inductive Refusal : DecodeError → Prop where
  | packet : Refusal (.corruptFrame .truncatedPacket)
  | partition : Refusal (.corruptFrame .truncatedFirstPartition)
  | keyframe : Refusal (.corruptFrame .truncatedKeyframeHeader)
  | feature (feature : Feature) : Refusal (.unsupportedFeature feature)
  | size (width height : Nat) : Refusal (.invalidDimensions width height)

theorem parseKeyframe_refusal {tag : FrameTag} {e : DecodeError}
    (refused : parseKeyframe tag data = .error e) : Refusal e := by
  unfold parseKeyframe at refused
  split at refused
  · split at refused
    · dsimp only at refused
      split at refused
      · cases refused
        exact .size _ _
      · contradiction
    · cases refused
      exact .feature _
  · cases refused
    exact .keyframe

theorem parse_refusal {e : DecodeError} (refused : parse data = .error e) : Refusal e := by
  unfold parse FrameTag.parse at refused
  by_cases long : 3 ≤ data.size
  · rw [dif_pos long] at refused
    change (if 3 < (FrameTag.ofWord _).version then _ else _) = _ at refused
    split at refused
    · cases refused
      exact .feature _
    · split at refused
      · cases refused
        exact .partition
      · change (if (FrameTag.ofWord _).keyframe = true then _ else _) = _ at refused
        split at refused
        · exact parseKeyframe_refusal refused
        · contradiction
  · rw [dif_neg long] at refused
    cases refused
    exact .packet

theorem parseKeyframe_ok {tag : FrameTag} {preamble : Preamble}
    (parsed : parseKeyframe tag data = .ok preamble) :
    keyframePreambleSize ≤ data.size ∧ ∃ size : KeyframeSize,
      (0 < size.width ∧ 0 < size.height) ∧
        preamble = { tag, keyframeSize := some size, size := keyframePreambleSize } := by
  unfold parseKeyframe at parsed
  split at parsed
  · rename_i long
    split at parsed
    · dsimp only at parsed
      split at parsed
      · contradiction
      · rename_i visible
        cases parsed
        exact ⟨long, _, by omega, rfl⟩
    · contradiction
  · contradiction

/-- The size of the picture is there exactly on keyframes. -/
theorem parse_keyframe {preamble : Preamble} (parsed : parse data = .ok preamble) :
    preamble.tag.keyframe = isKeyframe data ∧ preamble.keyframeSize.isSome = isKeyframe data := by
  obtain ⟨tag, tagged, _, _, done⟩ := parse_ok.mp parsed
  rw [← FrameTag.parse_keyframe tagged]
  split at done
  · rename_i keyframe
    obtain ⟨_, size, _, rfl⟩ := parseKeyframe_ok done
    exact ⟨rfl, keyframe.symm⟩
  · rename_i keyframe
    cases done
    exact ⟨rfl, (Bool.eq_false_iff.mpr keyframe).symm⟩

theorem parse_inter {preamble : Preamble} (parsed : parse data = .ok preamble)
    (inter : isKeyframe data = false) : preamble.keyframeSize = none := by
  have unsized := (parse_keyframe parsed).2
  rw [inter] at unsized
  exact Option.isNone_iff_eq_none.mp (Option.isSome_eq_false_iff.mp unsized)

theorem parse_visible {preamble : Preamble} (parsed : parse data = .ok preamble) :
    ∀ size, preamble.keyframeSize = some size → 0 < size.width ∧ 0 < size.height := by
  obtain ⟨tag, _, _, _, done⟩ := parse_ok.mp parsed
  intro size present
  split at done
  · obtain ⟨_, size, visible, rfl⟩ := parseKeyframe_ok done
    cases present
    exact visible
  · cases done
    contradiction

theorem parse_inside {preamble : Preamble} (parsed : parse data = .ok preamble) :
    preamble.size ≤ data.size := by
  obtain ⟨tag, tagged, _, _, done⟩ := parse_ok.mp parsed
  split at done
  · obtain ⟨long, size, _, rfl⟩ := parseKeyframe_ok done
    exact long
  · cases done
    exact FrameTag.parse_long tagged

theorem parseKeyframe_append {tag : FrameTag} {preamble : Preamble}
    (parsed : parseKeyframe tag data = .ok preamble) (rest : ByteArray) :
    parseKeyframe tag (data ++ rest) = .ok preamble := by
  unfold parseKeyframe at parsed ⊢
  split at parsed
  · rename_i long
    have longer : 10 ≤ (data ++ rest).size := by rw [ByteArray.size_append]; omega
    rw [dif_pos longer]
    simp only [word16_append rest (show 6 + 2 ≤ data.size by omega),
      word16_append rest (show 8 + 2 ≤ data.size by omega)]
    rw [ByteArray.getElem_append_left (show 3 < data.size by omega),
      ByteArray.getElem_append_left (show 4 < data.size by omega),
      ByteArray.getElem_append_left (show 5 < data.size by omega)]
    exact parsed
  · contradiction

theorem parse_append {preamble : Preamble} (parsed : parse data = .ok preamble)
    (rest : ByteArray) : parse (data ++ rest) = .ok preamble := by
  obtain ⟨tag, tagged, version, size, done⟩ := parse_ok.mp parsed
  have longer : data.size ≤ (data ++ rest).size := by rw [ByteArray.size_append]; omega
  refine parse_ok.mpr ⟨tag, FrameTag.parse_append tagged rest, version, by omega, ?_⟩
  split at done
  · rename_i keyframe
    rw [if_pos keyframe]
    exact parseKeyframe_append done rest
  · rename_i keyframe
    rw [if_neg keyframe]
    exact done

end Preamble

end Vp8
