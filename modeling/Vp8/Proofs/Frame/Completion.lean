import Vp8.Proofs.Frame.Independence

/-!
Frames come to their end. With a picture behind every reference no macroblock of a frame fails, and
the frame is damaged exactly if one of them is predicted from a damaged picture.
-/
namespace Vp8

namespace Sources

variable {rows cols : Nat} {s : Sources rows cols}

def Full (s : Sources rows cols) : Prop := ∀ a, a ≠ .current → ∃ p, s.picture? a = some p

theorem Full.find (full : s.Full) (a : Reference) : ∃ found, s.find a = .ok found := by
  unfold Sources.find
  split
  · exact ⟨none, rfl⟩
  · rename_i other
    obtain ⟨p, there⟩ := full a other
    exact ⟨some p, by rw [there]⟩

def Damages (s : Sources rows cols) (a : Reference) : Prop :=
  ∃ p, s.picture? a = some p ∧ p.damaged = true

def Spoils (s : Sources rows cols) (g : Grid rows cols) (chosen : Fin rows → Fin cols → Prop) :
    Prop := ∃ y x, chosen y x ∧ s.Damages (g.get y x).reference

end Sources

namespace Picture

variable {rows cols : Nat}

theorem reconstructFrom_damaged {r c : Nat} (p : Picture rows cols) (s : Sources rows cols)
    (reference : Option (Picture rows cols)) (fits : Fits rows cols r c) (m : Macroblock)
    (residual : Option Residual) :
    (p.reconstructFrom s reference fits m residual).damaged = p.damaged := by
  unfold reconstructFrom
  cases reference with
  | none => simp only [reconstructIntra]
  | some reference =>
    have predicted : (p.predictInter reference s.interpolation s.fullPixel fits m).damaged =
        p.damaged := by
      unfold predictInter
      dsimp only
      split
      · simp only [predictSplit]
      · simp only [predictWhole]
    cases residual with
    | none => exact predicted
    | some residual => simp only [Option.elim_some, addResidual, predicted]

theorem inheritDamage_damaged {s : Sources rows cols} (full : s.Full) (p : Picture rows cols)
    (a : Reference) :
    (p.inheritDamage s a).damaged = true ↔ p.damaged = true ∨ s.Damages a := by
  unfold inheritDamage Sources.Damages
  split
  · rename_i current
    rw [current]
    simp only [Sources.picture?, reduceCtorEq, false_and, exists_false, or_false]
  · rename_i other
    obtain ⟨q, there⟩ := full a other
    simp only [there, Option.elim_some, Bool.or_eq_true, Option.some.injEq, exists_eq_left']

end Picture

namespace Progress

variable {rows cols partitions : Nat} {p : Progress rows cols partitions}
  {setup : FrameSetup rows cols} {g : Grid rows cols}

structure Reached (setup : FrameSetup rows cols) (g : Grid rows cols) (r c : Nat)
    (p : Progress rows cols partitions) : Prop where
  references : ∀ y x, (p.grid.get y x).reference = (g.get y x).reference
  damaged : p.picture.damaged = true ↔ setup.sources.Spoils g (Grid.Before r c)

theorem spoils_next {s : Sources rows cols} (r : Fin rows) (c : Fin cols) :
    s.Spoils g (Grid.Before r (c + 1)) ↔
      s.Spoils g (Grid.Before r c) ∨ s.Damages (g.get r c).reference := by
  unfold Sources.Spoils
  constructor
  · rintro ⟨y, x, before, damages⟩
    rcases before.passed with ⟨rfl, rfl⟩ | earlier
    · exact .inr damages
    · exact .inl ⟨y, x, earlier, damages⟩
  · rintro (⟨y, x, before, damages⟩ | damages)
    · exact ⟨y, x, by omega, damages⟩
    · exact ⟨r, c, by omega, damages⟩

theorem spoils_nextRow {s : Sources rows cols} (r : Nat) :
    s.Spoils g (Grid.Before (r + 1) 0) ↔ s.Spoils g (Grid.Before r cols) := by
  unfold Sources.Spoils
  refine exists_congr fun y => exists_congr fun x => and_congr_left fun _ => ?_
  have := x.isLt
  omega

theorem macroblock_reached {r : Fin rows} {c : Fin cols} (full : setup.sources.Full)
    (positive : 0 < partitions) (reached : Reached setup g r c p) :
    ∃ q, macroblock setup positive r p c = .ok q ∧ Reached setup g r (c + 1) q := by
  have kept := ((p.grid.get r c).readResidual_reference setup.factors setup.probs p.tokens c).read
    (p.readers.get (turn positive r))
  rw [macroblock_eq]
  change ((tokensOf setup p r c).read _).1.1.2.reference = _ ∧ _ at kept
  dsimp only
  generalize (tokensOf setup p r c).read (p.readers.get (turn positive r)) = read at kept ⊢
  -- reading the residual leaves the reference as the modes have it
  have same : read.1.1.2.reference = (g.get r c).reference := by
    rw [kept.1, reached.references]
  obtain ⟨found, source⟩ := full.find read.1.1.2.reference
  have placed : (p.picture.inheritDamage setup.sources read.1.1.2.reference).reconstruct
      setup.sources r c read.1.1.2 read.1.1.1 =
      .ok ((p.picture.inheritDamage setup.sources read.1.1.2.reference).reconstructFrom
        setup.sources found ⟨Plane.lumaFits r c, Plane.chromaFits r c⟩ read.1.1.2
        read.1.1.1) := by
    unfold Picture.reconstruct
    rw [source]
    rfl
  refine ⟨_, place_ok.mpr ⟨_, placed, rfl⟩, ?_, ?_⟩
  · intro y x
    dsimp only
    rw [Grid.get_set]
    split
    · rename_i here
      rw [same, here.1, here.2]
    · exact reached.references y x
  · dsimp only
    rw [Picture.reconstructFrom_damaged, Picture.inheritDamage_damaged full, same,
      reached.damaged, spoils_next]

theorem row_reached {r : Fin rows} (full : setup.sources.Full) (positive : 0 < partitions)
    (reached : Reached setup g r 0 p) :
    ∃ q, row setup positive p r = .ok q ∧ Reached setup g (r + 1) 0 q := by
  have start : Reached setup g r 0 p.startRow := ⟨reached.references, reached.damaged⟩
  obtain ⟨q, done, line⟩ := foldlM_completes (Reached setup g r)
    (fun _ _ reached => macroblock_reached full positive reached) start
  refine ⟨q.endRow r, ?_, line.references, ?_⟩
  · rw [row_eq, done]
    rfl
  · rw [spoils_nextRow]
    exact line.damaged

theorem run_reached (full : setup.sources.Full) (target : Picture rows cols)
    (g : Grid rows cols) (parts : Vector ByteArray partitions) (positive : 0 < partitions) :
    ∃ q, run setup target g parts positive = .ok q ∧ Reached setup g rows 0 q := by
  apply foldlM_completes (fun r => Reached setup g r 0)
  · intro r p reached
    exact row_reached full positive reached
  · refine ⟨fun _ _ => rfl, ?_⟩
    unfold Sources.Spoils
    constructor
    · exact nofun
    · rintro ⟨y, x, before, _⟩
      omega

end Progress

/-- A frame with sources and partitions is reconstructed. It is damaged if a macroblock of it is
    predicted from a damaged picture, and only then. -/
theorem reconstructFrame_completes {rows cols : Nat} {setup : FrameSetup rows cols}
    (full : setup.sources.Full) (target : Picture rows cols) (g : Grid rows cols)
    {parts : List ByteArray} (some : parts ≠ []) :
    ∃ done, reconstructFrame setup target g parts = .ok done ∧
      (done.picture.damaged = true ↔ setup.sources.Spoils g fun _ _ => True) := by
  have positive : 0 < parts.length := List.length_pos_iff.mpr some
  obtain ⟨q, finished, reached⟩ :=
    Progress.run_reached full target g ⟨parts.toArray, rfl⟩ positive
  refine ⟨⟨q.picture, q.grid, q.overrun⟩, ?_, ?_⟩
  · unfold reconstructFrame
    rw [dif_pos positive, finished]
    rfl
  · rw [reached.damaged]
    unfold Sources.Spoils
    refine exists_congr fun y => exists_congr fun x => and_congr_left fun _ => ?_
    have := y.isLt
    simp only [iff_true]
    omega

end Vp8
