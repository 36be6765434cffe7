import Vp8.Deblocking.Picture
import Vp8.Proofs.Image.Checked

/-!
Deblocking with every access checked: the eight taps of each line across an edge are read, and six
of them are written.
-/
namespace Vp8

namespace Plane

section Edges

variable {width height border : Nat}

def taps? (p : Plane width height border) (e : Edge) (i : Nat) : Option Taps := do
  let tap (k : Nat) := p.pixel? (e.tapX i k) (e.tapY i k)
  return ⟨← tap 0, ← tap 1, ← tap 2, ← tap 3, ← tap 4, ← tap 5, ← tap 6, ← tap 7⟩

def setTaps? (p : Plane width height border) (e : Edge) (i : Nat) (t : Taps) :
    Option (Plane width height border) := do
  let put (p : Plane width height border) (k : Nat) (value : UInt8) :=
    p.set? (e.tapX i k) (e.tapY i k) value
  put (← put (← put (← put (← put (← put p 1 t.p2) 2 t.p1) 3 t.p0) 4 t.q0) 5 t.q1) 6 t.q2

def filterLine? (filter : FilterKind) (kind : EdgeKind) (limits : EdgeLimits) (e : Edge)
    (p : Plane width height border) (i : Nat) : Option (Plane width height border) := do
  let t ← p.taps? e i
  match t.filter? filter kind limits with
  | none => return p
  | some t => p.setTaps? e i t

def filterEdge? (p : Plane width height border) (filter : FilterKind) (kind : EdgeKind)
    (limits : EdgeLimits) (e : Edge) : Option (Plane width height border) :=
  Fin.foldlM e.length (fun p i => filterLine? filter kind limits e p i) p

def filterInnerEdges? (m : Nat) (plan : EdgePlan) (orientation : Orientation) (r c : Nat)
    (p : Plane width height border) : Option (Plane width height border) :=
  Fin.foldlM m (fun p k =>
    p.filterEdge? plan.filter .inner plan.limits (blockEdge m orientation r c (k.val + 1))) p

def filterMacroblock? (m : Nat) (plan : EdgePlan) (r c : Nat) (p : Plane width height border) :
    Option (Plane width height border) := do
  let p ← if plan.leftEdge then
    p.filterEdge? plan.filter .outer plan.limits (blockEdge m .vertical r c 0) else pure p
  let p ← if plan.innerEdges then p.filterInnerEdges? m plan .vertical r c else pure p
  let p ← if plan.topEdge then
    p.filterEdge? plan.filter .outer plan.limits (blockEdge m .horizontal r c 0) else pure p
  if plan.innerEdges then p.filterInnerEdges? m plan .horizontal r c else pure p

variable {p : Plane width height border} {e : Edge}

theorem taps?_eq (inside : e.Inside width height border) (i : Fin e.length) :
    p.taps? e i = some (p.taps e inside i) := by
  have tap (k : Nat) (near : k < 8) : p.pixel? (e.tapX i k) (e.tapY i k) =
      some (p.pixel (e.tapX i k) (e.tapY i k) (inside.holds i.isLt near)) := pixel?_eq _
  unfold taps?
  dsimp only
  rw [tap 0 (by decide), tap 1 (by decide), tap 2 (by decide), tap 3 (by decide),
    tap 4 (by decide), tap 5 (by decide), tap 6 (by decide), tap 7 (by decide)]
  rfl

theorem setTaps?_eq (inside : e.Inside width height border) (i : Fin e.length) (t : Taps) :
    p.setTaps? e i t = some (p.setTaps e inside i t) := by
  have put (k : Nat) (near : k < 8) (p : Plane width height border) (value : UInt8) :
      p.set? (e.tapX i k) (e.tapY i k) value =
        some (p.set (e.tapX i k) (e.tapY i k) value (inside.holds i.isLt near)) := set?_eq _ _
  unfold setTaps?
  simp only [put 1 (by decide), put 2 (by decide), put 3 (by decide), put 4 (by decide),
    put 5 (by decide), put 6 (by decide), Option.bind_eq_bind, Option.bind_some]
  rfl

theorem filterLine?_eq (filter : FilterKind) (kind : EdgeKind) (limits : EdgeLimits)
    (inside : e.Inside width height border) (i : Fin e.length) :
    filterLine? filter kind limits e p i = some (filterLine filter kind limits e inside p i) := by
  unfold filterLine? filterLine
  rw [taps?_eq inside]
  dsimp only [Option.bind_eq_bind, Option.bind_some]
  cases (p.taps e inside i).filter? filter kind limits with
  | none => rfl
  | some t => exact setTaps?_eq inside i t

theorem filterEdge?_eq (filter : FilterKind) (kind : EdgeKind) (limits : EdgeLimits)
    (inside : e.Inside width height border) :
    p.filterEdge? filter kind limits e = some (p.filterEdge filter kind limits e inside) := by
  apply foldlM_some
  intro p i
  exact filterLine?_eq filter kind limits inside i

end Edges

variable {rows cols m border : Nat}

theorem filterInnerEdges?_eq (plan : EdgePlan) (roomy : 4 ≤ border) (orientation : Orientation)
    (r : Fin rows) (c : Fin cols) (p : Plane (blockSide m * cols) (blockSide m * rows) border) :
    p.filterInnerEdges? m plan orientation r c =
      some (p.filterInnerEdges plan roomy orientation r c) := by
  apply foldlM_some
  intro p k
  exact filterEdge?_eq _ _ _ _

theorem filterMacroblock?_eq (plan : EdgePlan) (roomy : 4 ≤ border) (r : Fin rows) (c : Fin cols)
    (p : Plane (blockSide m * cols) (blockSide m * rows) border) :
    p.filterMacroblock? m plan r c = some (p.filterMacroblock plan roomy r c) := by
  have edge (orientation : Orientation)
      (p : Plane (blockSide m * cols) (blockSide m * rows) border) :
      p.filterEdge? plan.filter .outer plan.limits (blockEdge m orientation r c 0) =
        some (p.filterBlockEdge plan .outer roomy orientation r c 0 (by omega)) :=
    filterEdge?_eq _ _ _ _
  have inner := filterInnerEdges?_eq (m := m) plan roomy (r := r) (c := c)
  unfold filterMacroblock? filterMacroblock
  cases plan.leftEdge <;> cases plan.innerEdges <;> cases plan.topEdge <;>
    simp only [edge, inner, Bool.false_eq_true, if_true, if_false, Option.pure_def,
      Option.bind_eq_bind, Option.bind_some]

end Plane

namespace Picture

variable {rows cols : Nat}

def filterMacroblock? (plan : EdgePlan) (r c : Nat) (p : Picture rows cols) :
    Option (Picture rows cols) := do
  let luma ← p.luma.filterMacroblock? 3 plan r c
  match plan.filter with
  | .simple => return { p with luma }
  | .normal =>
    let cb ← p.cb.filterMacroblock? 1 plan r c
    let cr ← p.cr.filterMacroblock? 1 plan r c
    return { p with luma, cb, cr }

def filterAt? (settings : FilterSettings) (level : Macroblock → Nat) (g : Grid rows cols)
    (r : Fin rows) (p : Picture rows cols) (c : Fin cols) : Option (Picture rows cols) :=
  let m := g.get r c
  if level m = 0 then some p
  else p.filterMacroblock? {
    filter := settings.kind
    limits := .ofLevel (level m) settings.sharpness settings.keyframe
    leftEdge := 0 < c.val
    topEdge := 0 < r.val
    innerEdges := m.filtersInnerEdges } r c

def deblock? (settings : FilterSettings) (level : Macroblock → Nat) (g : Grid rows cols)
    (p : Picture rows cols) : Option (Picture rows cols) :=
  if settings.level = 0 then some p
  else Fin.foldlM rows (fun p r => Fin.foldlM cols (filterAt? settings level g r) p) p

theorem filterMacroblock?_eq (plan : EdgePlan) (r : Fin rows) (c : Fin cols)
    (p : Picture rows cols) :
    p.filterMacroblock? plan r c = some (p.filterMacroblock plan r c) := by
  have luma := Plane.filterMacroblock?_eq (m := 3) plan luma_room r c p.luma
  have cb := Plane.filterMacroblock?_eq (m := 1) plan chroma_room r c p.cb
  have cr := Plane.filterMacroblock?_eq (m := 1) plan chroma_room r c p.cr
  unfold filterMacroblock? filterMacroblock
  rw [luma]
  dsimp only [Option.bind_eq_bind, Option.bind_some]
  cases plan.filter with
  | simple => rfl
  | normal =>
    dsimp only
    rw [cb, cr]
    rfl

theorem deblock?_eq (settings : FilterSettings) (level : Macroblock → Nat) (g : Grid rows cols)
    (p : Picture rows cols) :
    p.deblock? settings level g = some (p.deblock settings level g) := by
  unfold deblock? deblock
  split
  · rfl
  · apply foldlM_some
    intro p r
    apply foldlM_some
    intro p c
    unfold filterAt? filterAt
    dsimp only
    split
    · rfl
    · exact filterMacroblock?_eq _ r c p

end Picture

end Vp8
