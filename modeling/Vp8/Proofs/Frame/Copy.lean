import Vp8.Proofs.Frame.Progress
import Vp8.Proofs.Macroblock.Modes
import Vp8.Proofs.Prediction.Copy

/-!
Frames that are copies. The tokens of a frame can be read without reconstructing it; where all of its
macroblocks stand still and no coefficient among the tokens differs from zero, the frame shows what
its reference does.
-/
namespace Vp8

namespace Macroblock

variable {cols : Nat}

def readCoefficients (m : Macroblock) (probs : CoefficientProbs) (tokens : TokenContext cols)
    (c : Fin cols) : Coded (Coefficients × TokenContext cols) := do
  let hasSecond := m.mode.hasSecondOrder
  if m.skipped then return (.zero, tokens.skip c hasSecond)
  else
    let ((coefficients, _), tokens) ← tokens.read probs c hasSecond
    return (coefficients, tokens)

/-- What is read for a macroblock beside its coefficients: the macroblock is unchanged but that it
    may count as skipped, and coefficients that are all zero leave no residual but zeros. -/
def Finds (m : Macroblock) (a : (Option Residual × Macroblock) × TokenContext cols)
    (b : Coefficients × TokenContext cols) : Prop :=
  a.2 = b.2 ∧ (∃ skipped, a.1.2 = { m with skipped }) ∧
    (b.1 = .zero → ∀ x, a.1.1 = some x → x = .zero)

theorem readResidual_coefficients (m : Macroblock) (factors : Vector Factors 4)
    (probs : CoefficientProbs) (tokens : TokenContext cols) (c : Fin cols) :
    Coded.Related m.Finds (m.readResidual factors probs tokens c)
      (m.readCoefficients probs tokens c) := by
  unfold readResidual readCoefficients
  dsimp only
  split
  · exact .value ⟨rfl, ⟨m.skipped, rfl⟩, nofun⟩
  · apply Coded.Related.bind_same
    rintro ⟨⟨coefficients, coded⟩, tokens⟩
    dsimp only
    split
    · refine .value ⟨rfl, ⟨m.skipped, rfl⟩, ?_⟩
      rintro zero x ⟨⟩
      dsimp only at zero
      rw [zero, Coefficients.residual_zero]
    · exact .value ⟨rfl, ⟨m.mode.hasSecondOrder, rfl⟩, nofun⟩

theorem Still.skip {m : Macroblock} {a : Reference} (still : m.Still a) (skipped : Bool) :
    Still { m with skipped } a :=
  ⟨still.mode, still.vector, still.unlimited, still.reference⟩

end Macroblock

structure Scan (cols partitions : Nat) where
  tokens : TokenContext cols
  readers : Vector BoolReader partitions
  found : List Coefficients

namespace Scan

variable {rows cols partitions : Nat}

def start (cols : Nat) (parts : Vector ByteArray partitions) : Scan cols partitions where
  tokens := .blank cols
  readers := parts.map .ofBytes
  found := []

def macroblock (probs : CoefficientProbs) (g : Grid rows cols) (positive : 0 < partitions)
    (r : Fin rows) (s : Scan cols partitions) (c : Fin cols) : Scan cols partitions :=
  let turn := Progress.turn positive r
  let read := ((g.get r c).readCoefficients probs s.tokens c).read (s.readers.get turn)
  { tokens := read.1.2
    readers := replaceAt s.readers turn read.2
    found := read.1.1 :: s.found }

def row (probs : CoefficientProbs) (g : Grid rows cols) (positive : 0 < partitions)
    (s : Scan cols partitions) (r : Fin rows) : Scan cols partitions :=
  (List.finRange cols).foldl (macroblock probs g positive r)
    { s with tokens := s.tokens.startRow }

def run (probs : CoefficientProbs) (g : Grid rows cols) (parts : Vector ByteArray partitions)
    (positive : 0 < partitions) : Scan cols partitions :=
  (List.finRange rows).foldl (row probs g positive) (start cols parts)

def Blank (s : Scan cols partitions) : Prop := ∀ k ∈ s.found, k = .zero

end Scan

/-- All coefficients in the token partitions of a frame, the last macroblock first. -/
def scanCoefficients {rows cols : Nat} (probs : CoefficientProbs) (g : Grid rows cols)
    (parts : List ByteArray) : List Coefficients :=
  if positive : 0 < parts.length then
    (Scan.run probs g ⟨parts.toArray, List.size_toArray⟩ positive).found
  else []

namespace Picture

variable {rows cols : Nat} {p reference : Picture rows cols}

theorem Copied.inheritDamage {r c : Nat} (copied : Copied reference r c p) (s : Sources rows cols)
    (a : Reference) : Copied reference r c (p.inheritDamage s a) := by
  unfold Picture.inheritDamage
  split
  · exact copied
  · exact ⟨copied.luma, copied.cb, copied.cr⟩

end Picture

namespace Progress

variable {rows cols partitions : Nat} {setup : FrameSetup rows cols} {g : Grid rows cols}
  {a : Reference} {reference : Picture rows cols} {positive : 0 < partitions}
  {p q : Progress rows cols partitions} {s : Scan cols partitions}

structure Copies (reference : Picture rows cols) (g : Grid rows cols) (r c : Nat)
    (p : Progress rows cols partitions) (s : Scan cols partitions) : Prop where
  tokens : p.tokens = s.tokens
  readers : p.readers = s.readers
  ahead : ∀ y x, ¬ Grid.Before r c y x → p.grid.get y x = g.get y x
  picture : s.Blank → reference.Copied r c p.picture

theorem Copies.place {r : Fin rows} {c : Fin cols} {read : Tokens cols}
    {coefficients : Coefficients} {tokens : TokenContext cols}
    {readers : Vector BoolReader partitions} {m : Macroblock} (copies : Copies reference g r c p s)
    (source : setup.sources.picture? a = some reference) (still : m.Still a)
    (found : Macroblock.Finds m read (coefficients, tokens))
    (placed : Progress.place setup p r c read readers = .ok q) :
    Copies reference g r (c + 1) q
      { tokens, readers, found := coefficients :: s.found } := by
  obtain ⟨same, ⟨skipped, kept⟩, zero⟩ := found
  obtain ⟨picture, reconstructed, rfl⟩ := place_ok.mp placed
  refine ⟨same, rfl, ?_, ?_⟩
  · intro y x ahead
    dsimp only
    rw [Grid.get_set, if_neg (by rintro ⟨rfl, rfl⟩; omega)]
    exact copies.ahead y x (by omega)
  · intro blank
    unfold Scan.Blank at blank
    rw [List.forall_mem_cons] at blank
    have copied := (copies.picture blank.2).inheritDamage setup.sources read.1.2.reference
    rw [kept] at reconstructed copied
    exact copied.reconstruct source (still.skip skipped) (zero blank.1) reconstructed

theorem macroblock_copies {r : Fin rows} {c : Fin cols}
    (source : setup.sources.picture? a = some reference) (still : ∀ y x, (g.get y x).Still a)
    (copies : Copies reference g r c p s) (done : macroblock setup positive r p c = .ok q) :
    Copies reference g r (c + 1) q (s.macroblock setup.probs g positive r c) := by
  obtain ⟨found, readers⟩ :=
    ((g.get r c).readResidual_coefficients setup.factors setup.probs p.tokens c).read
      (p.readers.get (turn positive r))
  -- the macroblock is still as the modes have it, which is what the scan goes by
  rw [macroblock_eq, tokensOf, copies.ahead r c (by omega)] at done
  have placed := copies.place source (still r c) found done
  unfold Scan.macroblock
  dsimp only
  rw [← copies.tokens, ← copies.readers, ← readers]
  exact placed

theorem Copies.endRow {r : Fin rows} (copies : Copies reference g r cols p s) :
    Copies reference g (r + 1) 0 (p.endRow r) s where
  tokens := copies.tokens
  readers := copies.readers
  ahead y x ahead := copies.ahead y x (by have := x.isLt; omega)
  picture blank := by
    have copied := copies.picture blank
    refine ⟨?_, fun x y done => copied.cb x y done.nextRow,
      fun x y done => copied.cr x y done.nextRow⟩
    intro x y done
    have inner : Plane.Inner (16 * cols) (16 * rows) x y := by
      unfold Plane.Done at done
      unfold Plane.Inner
      omega
    unfold Progress.endRow
    dsimp only
    rw [Plane.sample_extendRowRight_inner _ luma_room (by omega) _ inner]
    exact copied.luma x y done.nextRow

theorem row_copies {r : Fin rows} (source : setup.sources.picture? a = some reference)
    (still : ∀ y x, (g.get y x).Still a) (copies : Copies reference g r 0 p s)
    (done : row setup positive p r = .ok q) :
    Copies reference g (r + 1) 0 q (s.row setup.probs g positive r) := by
  rw [row_eq] at done
  obtain ⟨last, line, ended⟩ := bind_ok.mp done
  cases ended
  have start : Copies reference g r 0 p.startRow { s with tokens := s.tokens.startRow } :=
    ⟨congrArg TokenContext.startRow copies.tokens, copies.readers, copies.ahead, copies.picture⟩
  have finished := foldlM_beside (Copies reference g r)
    (fun _ _ _ _ copies done => macroblock_copies source still copies done) start line
  exact finished.endRow

theorem run_copies (source : setup.sources.picture? a = some reference)
    (still : ∀ y x, (g.get y x).Still a) {target : Picture rows cols}
    {parts : Vector ByteArray partitions} (done : run setup target g parts positive = .ok q) :
    Copies reference g rows 0 q (Scan.run setup.probs g parts positive) := by
  have nothing (width side : Nat) : ∀ x y, ¬ Plane.Done width (side * 0) (side * 0) side x y := by
    intro x y done
    unfold Plane.Done at done
    omega
  have start : Copies reference g 0 0 (start target g parts) (Scan.start cols parts) :=
    ⟨rfl, rfl, fun _ _ _ => rfl, fun _ => ⟨fun x y done => (nothing _ _ x y done).elim,
      fun x y done => (nothing _ _ x y done).elim, fun x y done => (nothing _ _ x y done).elim⟩⟩
  exact foldlM_beside (fun r => Copies reference g r 0)
    (fun _ _ _ _ copies done => row_copies source still copies done) start done

end Progress

/-- A frame that stands still on one reference, without any coefficient but zeros, agrees with that
    reference inside the picture. -/
theorem reconstructFrame_copies {rows cols : Nat} {setup : FrameSetup rows cols}
    {target reference : Picture rows cols} {g : Grid rows cols} {a : Reference}
    {parts : List ByteArray} {done : Reconstruction rows cols}
    (source : setup.sources.picture? a = some reference) (still : ∀ y x, (g.get y x).Still a)
    (blank : ∀ k ∈ scanCoefficients setup.probs g parts, k = .zero)
    (reconstructed : reconstructFrame setup target g parts = .ok done) :
    reference.Copied rows 0 done.picture := by
  unfold reconstructFrame at reconstructed
  split at reconstructed
  · rename_i positive
    obtain ⟨p, run, finished⟩ := bind_ok.mp reconstructed
    cases finished
    unfold scanCoefficients at blank
    rw [dif_pos positive] at blank
    exact (Progress.run_copies source still run).picture blank
  · contradiction

end Vp8
