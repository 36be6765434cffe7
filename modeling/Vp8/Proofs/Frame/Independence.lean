import Vp8.Proofs.Entropy.Coded
import Vp8.Proofs.Frame.Progress
import Vp8.Proofs.Macroblock.Modes
import Vp8.Proofs.Prediction.Agreement

/-!
A frame is reconstructed without regard to what its target held before. Where no macroblock refers
to another frame, the sources do not matter either.
-/
namespace Vp8

namespace Picture

variable {rows cols : Nat} {p q : Picture rows cols} {s t : Sources rows cols}

theorem AgreeBefore.inheritDamage {r c : Nat} (agree : AgreeBefore r c p q) {reference : Reference}
    (sources : s = t ∨ reference = .current) :
    AgreeBefore r c (p.inheritDamage s reference) (q.inheritDamage t reference) := by
  unfold Picture.inheritDamage
  split
  · exact agree
  · rename_i other
    rcases sources with rfl | current
    · constructor
      · exact agree.luma
      · exact agree.cb
      · exact agree.cr
      · dsimp only
        rw [agree.damaged]
    · exact absurd current other

theorem AgreeBefore.reconstruct {r : Fin rows} {c : Fin cols} (agree : AgreeBefore r c p q)
    (m : Macroblock) (residual : Option Residual) (sources : s = t ∨ m.reference = .current) :
    Outcome (AgreeBefore r (c + 1)) (p.reconstruct s r c m residual)
      (q.reconstruct t r c m residual) := by
  unfold Picture.reconstruct
  rcases sources with rfl | current
  · cases s.find m.reference with
    | error e => exact .error e
    | ok reference => exact .ok (agree.reconstructFrom s reference _ m residual)
  · have found (u : Sources rows cols) : u.find m.reference = .ok none := by
      unfold Sources.find
      rw [if_pos current]
    rw [found, found]
    exact .ok (agree.reconstructIntra ⟨Plane.lumaFits r c, Plane.chromaFits r c⟩ m residual)

end Picture

theorem Macroblock.readResidual_reference {cols : Nat} (m : Macroblock)
    (factors : Vector Factors 4) (probs : CoefficientProbs) (tokens : TokenContext cols)
    (c : Fin cols) :
    Coded.Related (fun a _ => a.1.2.reference = m.reference)
      (m.readResidual factors probs tokens c) (m.readResidual factors probs tokens c) := by
  unfold readResidual
  dsimp only
  split
  · exact .value rfl
  · apply Coded.Related.bind_same
    intro read
    split
    · exact .value rfl
    · exact .value rfl

namespace Progress

variable {rows cols partitions : Nat} {p q : Progress rows cols partitions}
  {setup setup' : FrameSetup rows cols}

/-- Only the sources of two frames differ, and where they do, no macroblock has need of them. -/
structure Compatible (setup setup' : FrameSetup rows cols) (g : Grid rows cols) : Prop where
  factors : setup.factors = setup'.factors
  probs : setup.probs = setup'.probs
  sources : setup.sources = setup'.sources ∨ ∀ y x, (g.get y x).reference = .current

structure Alike (setup setup' : FrameSetup rows cols) (r c : Nat)
    (p q : Progress rows cols partitions) : Prop where
  picture : Picture.AgreeBefore r c p.picture q.picture
  grid : p.grid = q.grid
  tokens : p.tokens = q.tokens
  readers : p.readers = q.readers
  compatible : Compatible setup setup' p.grid

theorem Compatible.set {g : Grid rows cols} (compatible : Compatible setup setup' g) (r : Fin rows)
    (c : Fin cols) {m : Macroblock} (same : m.reference = (g.get r c).reference) :
    Compatible setup setup' (g.set r c m) := by
  constructor
  · exact compatible.factors
  · exact compatible.probs
  · rcases compatible.sources with equal | current
    · exact .inl equal
    · right
      intro y x
      rw [Grid.get_set]
      split
      · rw [same, current]
      · exact current y x

theorem macroblock_alike {r : Fin rows} {c : Fin cols} (alike : Alike setup setup' r c p q)
    (positive : 0 < partitions) :
    Outcome (Alike setup setup' r (c + 1)) (macroblock setup positive r p c)
      (macroblock setup' positive r q c) := by
  have tokens : tokensOf setup p r c = tokensOf setup' q r c := by
    unfold tokensOf
    rw [alike.grid, alike.tokens, alike.compatible.factors, alike.compatible.probs]
  have kept := ((p.grid.get r c).readResidual_reference setup.factors setup.probs p.tokens c).read
    (p.readers.get (turn positive r))
  rw [macroblock_eq, macroblock_eq, ← tokens, ← alike.readers]
  change ((tokensOf setup p r c).read _).1.1.2.reference = _ ∧ _ at kept
  dsimp only
  generalize (tokensOf setup p r c).read (p.readers.get (turn positive r)) = read at kept ⊢
  have sources : setup.sources = setup'.sources ∨ read.1.1.2.reference = .current := by
    rcases alike.compatible.sources with equal | current
    · exact .inl equal
    · right
      rw [kept.1, current]
  have pictures :=
    (alike.picture.inheritDamage sources).reconstruct read.1.1.2 read.1.1.1 sources
  unfold place
  apply pictures.bind
  intro picture picture' agree
  apply Outcome.ok
  constructor
  · exact agree
  · dsimp only
    rw [alike.grid]
  · rfl
  · rfl
  · exact alike.compatible.set r c kept.1

theorem row_alike {r : Fin rows} (alike : Alike setup setup' r 0 p q) (positive : 0 < partitions) :
    Outcome (Alike setup setup' (r + 1) 0) (row setup positive p r) (row setup' positive q r) := by
  have start : Alike setup setup' r 0 p.startRow q.startRow := by
    constructor
    · exact alike.picture
    · exact alike.grid
    · exact congrArg TokenContext.startRow alike.tokens
    · exact alike.readers
    · exact alike.compatible
  rw [row_eq, row_eq]
  apply (Outcome.foldlM (Alike setup setup' r) (fun c p q alike => macroblock_alike alike positive)
    start).bind
  intro p q line
  apply Outcome.ok
  have := r.isLt
  constructor
  · constructor
    · refine line.picture.luma.extendRowRight luma_room ?_ ?_
        (Plane.Encloses.covers (by unfold Plane.Encloses; omega)) ?_
      · omega
      · unfold Plane.LumaKnown Plane.Known
        omega
      · intro u v member
        unfold Plane.LumaKnown Plane.Known at *
        omega
    · apply line.picture.cb.mono
      intro u v member
      unfold Plane.ChromaKnown Plane.Known at *
      omega
    · apply line.picture.cr.mono
      intro u v member
      unfold Plane.ChromaKnown Plane.Known at *
      omega
    · exact line.picture.damaged
  · exact line.grid
  · exact line.tokens
  · exact line.readers
  · exact line.compatible

theorem start_alike (targets : Picture rows cols × Picture rows cols) {g : Grid rows cols}
    (parts : Vector ByteArray partitions) (compatible : Compatible setup setup' g) :
    Alike setup setup' 0 0 (start targets.1 g parts) (start targets.2 g parts) := by
  constructor
  · constructor
    · apply (Plane.setIntraEdges_agree luma_room _ _ (Plane.edgeRoom luma_room)).mono
      intro u v member
      unfold Plane.LumaKnown Plane.Known at member
      unfold Plane.Edges
      omega
    · apply (Plane.setIntraEdges_agree chroma_room _ _ (Plane.edgeRoom chroma_room)).mono
      intro u v member
      unfold Plane.ChromaKnown Plane.Known at member
      unfold Plane.Edges
      omega
    · apply (Plane.setIntraEdges_agree chroma_room _ _ (Plane.edgeRoom chroma_room)).mono
      intro u v member
      unfold Plane.ChromaKnown Plane.Known at member
      unfold Plane.Edges
      omega
    · rfl
  · rfl
  · rfl
  · rfl
  · exact compatible

theorem run_alike (target target' : Picture rows cols) {g : Grid rows cols}
    (parts : Vector ByteArray partitions) (positive : 0 < partitions)
    (compatible : Compatible setup setup' g) :
    Outcome (Alike setup setup' rows 0) (run setup target g parts positive)
      (run setup' target' g parts positive) :=
  Outcome.foldlM (fun r => Alike setup setup' r 0)
    (fun _ _ _ alike => row_alike alike positive)
    (start_alike (target, target') parts compatible)

end Progress

structure Reconstruction.Alike {rows cols : Nat} (d e : Reconstruction rows cols) : Prop where
  picture : Picture.AgreeInside d.picture e.picture
  grid : d.grid = e.grid
  overrun : d.overrun = e.overrun

theorem reconstructFrame_alike {rows cols : Nat} {setup setup' : FrameSetup rows cols}
    (target target' : Picture rows cols) {g : Grid rows cols} (parts : List ByteArray)
    (compatible : Progress.Compatible setup setup' g) :
    Outcome Reconstruction.Alike (reconstructFrame setup target g parts)
      (reconstructFrame setup' target' g parts) := by
  unfold reconstructFrame
  split
  · rename_i positive
    apply (Progress.run_alike target target' ⟨parts.toArray, rfl⟩ positive compatible).bind
    intro p q alike
    apply Outcome.ok
    constructor
    · constructor
      · apply alike.picture.luma.mono
        intro u v member
        unfold Plane.Inner at member
        unfold Plane.LumaKnown Plane.Known
        omega
      · apply alike.picture.cb.mono
        intro u v member
        unfold Plane.Inner at member
        unfold Plane.ChromaKnown Plane.Known
        omega
      · apply alike.picture.cr.mono
        intro u v member
        unfold Plane.Inner at member
        unfold Plane.ChromaKnown Plane.Known
        omega
      · exact alike.picture.damaged
    · exact alike.grid
    · dsimp only
      unfold Progress.overrun
      rw [alike.readers]
  · exact .error _

end Vp8
