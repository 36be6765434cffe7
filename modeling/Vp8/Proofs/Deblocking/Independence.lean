import Mathlib.Logic.Equiv.Defs
import Vp8.Proofs.Deblocking.Footprint

/-!
The lines of an edge in memory. Wherever their taps lie apart, a line finds its taps as they were
before the edge, whatever was filtered before it: the loop over the lines does what filtering all of
them at once does, in any order. This is shown for buffers of any size, of which planes are a case.
-/
namespace Vp8

namespace Taps

def ofFn (f : Fin 8 → UInt8) : Taps := ⟨f 0, f 1, f 2, f 3, f 4, f 5, f 6, f 7⟩

theorem entry_ofFn (f : Fin 8 → UInt8) (k : Fin 8) : (ofFn f).entry k = f k := by
  fin_cases k <;> rfl

theorem ext_entry {t u : Taps} (same : ∀ k, t.entry k = u.entry k) : t = u := by
  have back (t : Taps) : ofFn t.entry = t := rfl
  rw [← back t, ← back u, funext same]

def filtered (filter : FilterKind) (kind : EdgeKind) (limits : EdgeLimits) (t : Taps) : Taps :=
  (t.filter? filter kind limits).getD t

end Taps

abbrev Buffer (size : Nat) := { bytes : ByteArray // bytes.size = size }

namespace Buffer

variable {size : Nat}

def byte (b : Buffer size) (i : Fin size) : UInt8 := b.val.get i (b.property.symm ▸ i.isLt)

def put (b : Buffer size) (i : Fin size) (value : UInt8) : Buffer size :=
  ⟨b.val.set i value (b.property.symm ▸ i.isLt), (Array.size_set ..).trans b.property⟩

theorem byte_put (b : Buffer size) (i j : Fin size) (value : UInt8) :
    (b.put i value).byte j = if i = j then value else b.byte j := by
  apply (get_set _ _ _ _ _ _ _).trans
  by_cases same : i = j
  · rw [if_pos same, if_pos (congrArg Fin.val same)]
  · rw [if_neg same, if_neg fun place => same (Fin.ext place)]
    rfl

theorem byte_put_of_ne (b : Buffer size) {i j : Fin size} (value : UInt8) (other : i ≠ j) :
    (b.put i value).byte j = b.byte j := by
  rw [byte_put, if_neg other]

theorem ext_byte {b c : Buffer size} (same : ∀ i, b.byte i = c.byte i) : b = c := by
  apply Subtype.ext
  apply ByteArray.ext_getElem (b.property.trans c.property.symm)
  intro i left right
  exact same ⟨i, b.property ▸ left⟩

end Buffer

/-- Where the lines of an edge lie in memory: the first tap behind the edge on the first line, the
    steps from tap to tap and from line to line, and how many lines there are. -/
structure EdgeLayout where
  start : Nat
  across : Nat
  along : Nat
  length : Nat
  deriving DecidableEq, Repr

namespace EdgeLayout

variable {size : Nat}

def place (a : EdgeLayout) (i k : Nat) : Nat := a.start + i * a.along - 4 * a.across + k * a.across

def Within (a : EdgeLayout) (size : Nat) : Prop :=
  ∀ (i : Fin a.length) (k : Fin 8),
    4 * a.across ≤ a.start + i.val * a.along ∧ a.place i k < size

/-- Lines are runs of bytes at least eight bytes apart, or they lie side by side and their taps in
    rows of memory that have room for all of them. -/
def Apart (a : EdgeLayout) : Prop :=
  a.across = 1 ∧ 8 ≤ a.along ∨ a.along = 1 ∧ a.length ≤ a.across

instance (a : EdgeLayout) : Decidable (a.Within size) := inferInstanceAs (Decidable (∀ _, _))

instance (a : EdgeLayout) : Decidable a.Apart := inferInstanceAs (Decidable (_ ∨ _))

variable {a : EdgeLayout}

def spot (within : a.Within size) (i : Fin a.length) (k : Fin 8) : Fin size :=
  ⟨a.place i k, (within i k).2⟩

/-- No two lines share a tap. -/
theorem spot_inj (apart : a.Apart) (within : a.Within size) {i j : Fin a.length} {k l : Fin 8}
    (same : spot within i k = spot within j l) : i = j ∧ k = l := by
  have here := (within i k).1
  have there := (within j l).1
  have equal : a.place i k = a.place j l := congrArg Fin.val same
  unfold place at equal
  rcases apart with ⟨across, along⟩ | ⟨along, across⟩
  · rw [across] at here there equal
    have places : i.val * a.along + k.val = j.val * a.along + l.val := by omega
    have line := row_unique (by omega) (by omega) places
    rw [line] at places
    exact ⟨Fin.ext line, Fin.ext (by omega)⟩
  · rw [along] at here there equal
    have places : k.val * a.across + i.val = l.val * a.across + j.val := by omega
    have tap := row_unique (by omega) (by omega) places
    rw [tap] at places
    exact ⟨Fin.ext (by omega), Fin.ext tap⟩

end EdgeLayout

namespace Buffer

variable {size : Nat} {a : EdgeLayout}

def taps (b : Buffer size) (within : a.Within size) (i : Fin a.length) : Taps :=
  .ofFn fun k => b.byte (a.spot within i k)

def setTaps (b : Buffer size) (within : a.Within size) (i : Fin a.length) (t : Taps) :
    Buffer size :=
  Fin.foldl 6 (fun b k => b.put (a.spot within i ⟨k + 1, by omega⟩) (t.entry ⟨k + 1, by omega⟩)) b

def filterLine (filter : FilterKind) (kind : EdgeKind) (limits : EdgeLimits)
    (within : a.Within size) (b : Buffer size) (i : Fin a.length) : Buffer size :=
  match (b.taps within i).filter? filter kind limits with
  | none => b
  | some t => b.setTaps within i t

def filterEdge (filter : FilterKind) (kind : EdgeKind) (limits : EdgeLimits)
    (within : a.Within size) (b : Buffer size) : Buffer size :=
  Fin.foldl a.length (filterLine filter kind limits within) b

/-- What filtering all lines at once makes of a buffer: every line is what the filter makes of it as
    it is there, and no byte changes but the three on each side of the edge. -/
structure FilteredAtOnce (filter : FilterKind) (kind : EdgeKind) (limits : EdgeLimits)
    (within : a.Within size) (b out : Buffer size) : Prop where
  lines : ∀ i, out.taps within i = (b.taps within i).filtered filter kind limits
  others : ∀ j, out.byte j ≠ b.byte j → ∃ i k, 0 < k.val ∧ k.val < 7 ∧ a.spot within i k = j

variable {filter : FilterKind} {kind : EdgeKind} {limits : EdgeLimits} {within : a.Within size}
  {b : Buffer size}

theorem entry_taps (i : Fin a.length) (k : Fin 8) :
    (b.taps within i).entry k = b.byte (a.spot within i k) := Taps.entry_ofFn _ k

theorem byte_setTaps_other {i : Fin a.length} (t : Taps) {j : Fin size}
    (other : ∀ k : Fin 8, 0 < k.val → k.val < 7 → a.spot within i k ≠ j) :
    (b.setTaps within i t).byte j = b.byte j := by
  apply foldl_keeps fun b : Buffer size => b.byte j
  intro b k
  exact byte_put_of_ne b _ (other _ k.val.succ_pos (by dsimp only; omega))

theorem byte_setTaps_inner (apart : a.Apart) (i : Fin a.length) (t : Taps) {k : Fin 8}
    (inner : 0 < k.val ∧ k.val < 7) :
    (b.setTaps within i t).byte (a.spot within i k) = t.entry k := by
  apply foldl_once (fun b : Buffer size => b.byte (a.spot within i k)) (fun _ => t.entry k)
    ⟨k - 1, by omega⟩
  · intro b
    have same : (⟨k - 1 + 1, by omega⟩ : Fin 8) = k := Fin.ext (by dsimp only; omega)
    dsimp only
    rw [same, byte_put, if_pos rfl]
  · intro b l other
    apply byte_put_of_ne
    intro same
    apply other
    have place := congrArg Fin.val (EdgeLayout.spot_inj apart within same).2
    exact Fin.ext (by dsimp only at place ⊢; omega)

theorem byte_setTaps_line (apart : a.Apart) {i j : Fin a.length} (other : i ≠ j) (t : Taps)
    (k : Fin 8) : (b.setTaps within i t).byte (a.spot within j k) = b.byte (a.spot within j k) :=
  byte_setTaps_other t fun _ _ _ same => other (EdgeLayout.spot_inj apart within same).1

theorem taps_setTaps (apart : a.Apart) {i : Fin a.length} {t : Taps}
    (outer : ∀ k : Fin 8, k.val < 1 ∨ 7 ≤ k.val → t.entry k = (b.taps within i).entry k) :
    (b.setTaps within i t).taps within i = t := by
  apply Taps.ext_entry
  intro k
  rw [entry_taps]
  by_cases inner : 0 < k.val ∧ k.val < 7
  · exact byte_setTaps_inner apart i t inner
  · rw [outer k (by omega), entry_taps]
    apply byte_setTaps_other
    intro l first last same
    have place := (EdgeLayout.spot_inj apart within same).2
    omega

/-! Filtering one line: this line, the other lines, and the bytes that no line may change. -/

theorem taps_filterLine_self (apart : a.Apart) (b : Buffer size) (i : Fin a.length) :
    (b.filterLine filter kind limits within i).taps within i =
      (b.taps within i).filtered filter kind limits := by
  unfold filterLine Taps.filtered
  split
  · rename_i none
    rw [none]
    rfl
  · rename_i t done
    rw [done]
    apply taps_setTaps apart
    intro k outer
    have narrow := filter.reach_le
    exact Taps.filter?_keeps done (by omega)

theorem taps_filterLine_other (apart : a.Apart) (b : Buffer size) {i j : Fin a.length}
    (other : i ≠ j) :
    (b.filterLine filter kind limits within i).taps within j = b.taps within j := by
  unfold filterLine
  split
  · rfl
  · apply Taps.ext_entry
    intro k
    rw [entry_taps, entry_taps]
    exact byte_setTaps_line apart other _ k

theorem byte_filterLine_other (b : Buffer size) (i : Fin a.length) {j : Fin size}
    (other : ∀ k : Fin 8, 0 < k.val → k.val < 7 → a.spot within i k ≠ j) :
    (b.filterLine filter kind limits within i).byte j = b.byte j := by
  unfold filterLine
  split
  · rfl
  · exact byte_setTaps_other _ other

def filterInOrder (filter : FilterKind) (kind : EdgeKind) (limits : EdgeLimits)
    (within : a.Within size) (order : Equiv.Perm (Fin a.length)) (b : Buffer size) : Buffer size :=
  Fin.foldl a.length (fun b k => b.filterLine filter kind limits within (order k)) b

theorem filteredAtOnce_inOrder (apart : a.Apart) (order : Equiv.Perm (Fin a.length))
    (b : Buffer size) :
    FilteredAtOnce filter kind limits within b
      (b.filterInOrder filter kind limits within order) where
  lines i := by
    apply foldl_once (fun b : Buffer size => b.taps within i) (Taps.filtered filter kind limits)
      (order.symm i)
    · intro b
      rw [order.apply_symm_apply]
      exact taps_filterLine_self apart b i
    · intro b k other
      apply taps_filterLine_other apart
      rintro rfl
      exact other (order.symm_apply_apply k).symm
  others j changed := by
    by_contra outside
    apply changed
    apply foldl_keeps fun b : Buffer size => b.byte j
    intro b k
    apply byte_filterLine_other
    intro l first last same
    exact outside ⟨order k, l, first, last, same⟩

/-- There is but one result of filtering all lines at once. -/
theorem FilteredAtOnce.unique {c d : Buffer size}
    (first : FilteredAtOnce filter kind limits within b c)
    (second : FilteredAtOnce filter kind limits within b d) : c = d := by
  have outside {c : Buffer size} (result : FilteredAtOnce filter kind limits within b c)
      {j : Fin size} (none : ¬ ∃ i k, a.spot within i k = j) : c.byte j = b.byte j := by
    by_contra changed
    obtain ⟨i, k, -, -, same⟩ := result.others j changed
    exact none ⟨i, k, same⟩
  apply ext_byte
  intro j
  by_cases tap : ∃ i k, a.spot within i k = j
  · obtain ⟨i, k, rfl⟩ := tap
    rw [← entry_taps, ← entry_taps, first.lines, second.lines]
  · rw [outside first tap, outside second tap]

theorem filteredAtOnce_iff (apart : a.Apart) (b out : Buffer size) :
    FilteredAtOnce filter kind limits within b out ↔
      out = b.filterEdge filter kind limits within := by
  have result : FilteredAtOnce filter kind limits within b
      (b.filterEdge filter kind limits within) := filteredAtOnce_inOrder apart (.refl _) b
  constructor
  · intro known
    exact known.unique result
  · rintro rfl
    exact result

theorem filterInOrder_eq (apart : a.Apart) (b : Buffer size) (order : Equiv.Perm (Fin a.length)) :
    b.filterInOrder filter kind limits within order = b.filterEdge filter kind limits within :=
  (filteredAtOnce_iff apart b _).1 (filteredAtOnce_inOrder apart order b)

end Buffer

/-! Planes are such buffers, and their edges lie there at the distances that rows have. -/

section Planes

variable {width height border : Nat}

def Plane.buffer (p : Plane width height border) :
    Buffer ((width + 2 * border) * (height + 2 * border)) := ⟨p.bytes, p.size_eq⟩

theorem Plane.offset_eq {x y u v : Int} {r c : Nat} (left : -(border : Int) ≤ x)
    (top : -(border : Int) ≤ y) (column : u = x + c) (row : v = y + r) :
    offset width border u v = offset width border x y + r * (width + 2 * border) + c := by
  rw [column, row]
  exact offset_add left top r c

namespace Edge

variable {e : Edge}

def layout (e : Edge) (width border : Nat) : EdgeLayout where
  start := Plane.offset width border e.x e.y
  across := match e.orientation with | .vertical => 1 | .horizontal => width + 2 * border
  along := match e.orientation with | .vertical => width + 2 * border | .horizontal => 1
  length := e.length

theorem Inside.offset_tap (inside : e.Inside width height border) (i k : Nat) :
    4 * (e.layout width border).across ≤
        (e.layout width border).start + i * (e.layout width border).along ∧
      Plane.offset width border (e.tapX i k) (e.tapY i k) = (e.layout width border).place i k := by
  unfold Inside at inside
  unfold EdgeLayout.place layout tapX tapY
  cases o : e.orientation with
  | vertical =>
    simp only [o] at inside ⊢
    obtain ⟨left, top, -⟩ := inside
    have start : Plane.offset width border e.x e.y =
        Plane.offset width border (e.x - 4) e.y + 0 * (width + 2 * border) + 4 :=
      Plane.offset_eq left top (by omega) (by omega)
    have tap : Plane.offset width border (e.x + k - 4) (e.y + i) =
        Plane.offset width border (e.x - 4) e.y + i * (width + 2 * border) + k :=
      Plane.offset_eq left top (by omega) rfl
    rw [start, tap]
    generalize i * (width + 2 * border) = row
    omega
  | horizontal =>
    simp only [o] at inside ⊢
    obtain ⟨left, top, -⟩ := inside
    have start : Plane.offset width border e.x e.y =
        Plane.offset width border e.x (e.y - 4) + 4 * (width + 2 * border) + 0 :=
      Plane.offset_eq left top (by omega) (by omega)
    have tap : Plane.offset width border (e.x + i) (e.y + k - 4) =
        Plane.offset width border e.x (e.y - 4) + k * (width + 2 * border) + i :=
      Plane.offset_eq left top rfl (by omega)
    rw [start, tap]
    generalize k * (width + 2 * border) = row
    omega

theorem Inside.within (inside : e.Inside width height border) :
    (e.layout width border).Within ((width + 2 * border) * (height + 2 * border)) := by
  intro i k
  have tap := inside.offset_tap i k
  refine ⟨tap.1, ?_⟩
  rw [← tap.2]
  exact (inside.holds i.isLt k.isLt).2.2

end Edge

namespace Plane

variable {e : Edge}

theorem pixel_tap (p : Plane width height border) (inside : e.Inside width height border)
    (i : Fin e.length) (k : Fin 8) :
    p.pixel (e.tapX i k) (e.tapY i k) (inside.holds i.isLt k.isLt) =
      p.buffer.byte (EdgeLayout.spot inside.within i k) := by
  have moved {j : Nat} (place : offset width border (e.tapX i k) (e.tapY i k) = j)
      (lt : j < p.bytes.size) :
      p.pixel (e.tapX i k) (e.tapY i k) (inside.holds i.isLt k.isLt) = p.bytes.get j lt := by
    subst place
    rfl
  exact moved (inside.offset_tap i k).2 _

theorem buffer_set_tap (p : Plane width height border) (inside : e.Inside width height border)
    (i : Fin e.length) (k : Fin 8) (value : UInt8) :
    (p.set (e.tapX i k) (e.tapY i k) value (inside.holds i.isLt k.isLt)).buffer =
      p.buffer.put (EdgeLayout.spot inside.within i k) value := by
  apply Subtype.ext
  have moved {j : Nat} (place : offset width border (e.tapX i k) (e.tapY i k) = j)
      (lt : j < p.bytes.size) :
      (p.set (e.tapX i k) (e.tapY i k) value (inside.holds i.isLt k.isLt)).bytes =
        p.bytes.set j value lt := by
    subst place
    rfl
  exact moved (inside.offset_tap i k).2 _

theorem taps_eq_buffer (p : Plane width height border) (inside : e.Inside width height border)
    (i : Fin e.length) : p.taps e inside i = p.buffer.taps inside.within i := by
  unfold taps
  simp only [pixel_tap p inside i]
  rfl

theorem buffer_setTaps (p : Plane width height border) (inside : e.Inside width height border)
    (i : Fin e.length) (t : Taps) :
    (p.setTaps e inside i t).buffer = p.buffer.setTaps inside.within i t := by
  have put {q : Plane width height border}
      {b : Buffer ((width + 2 * border) * (height + 2 * border))} (k : Fin 8)
      (same : q.buffer = b) :
      (q.set (e.tapX i k) (e.tapY i k) (t.entry k) (inside.holds i.isLt k.isLt)).buffer =
        b.put (EdgeLayout.spot inside.within i k) (t.entry k) := by
    rw [buffer_set_tap q inside, same]
  exact put 6 (put 5 (put 4 (put 3 (put 2 (put 1 rfl)))))

theorem buffer_filterLine (filter : FilterKind) (kind : EdgeKind) (limits : EdgeLimits)
    (inside : e.Inside width height border) (p : Plane width height border) (i : Fin e.length) :
    (filterLine filter kind limits e inside p i).buffer =
      p.buffer.filterLine filter kind limits inside.within i := by
  unfold filterLine Buffer.filterLine
  rw [taps_eq_buffer]
  cases (p.buffer.taps inside.within i).filter? filter kind limits with
  | none => rfl
  | some t => exact buffer_setTaps p inside i t

theorem buffer_filterEdge (filter : FilterKind) (kind : EdgeKind) (limits : EdgeLimits)
    (inside : e.Inside width height border) (p : Plane width height border) :
    (p.filterEdge filter kind limits e inside).buffer =
      p.buffer.filterEdge filter kind limits inside.within :=
  foldl_commutes buffer (buffer_filterLine filter kind limits inside) p

end Plane

end Planes

/-- Rows of a picture's plane have room for the taps of a line, and for all lines of an edge. -/
theorem Plane.blockEdge_apart {rows cols m border : Nat} (roomy : 4 ≤ border)
    (orientation : Orientation) (r : Fin rows) (c : Fin cols) (k : Nat) :
    ((blockEdge m orientation r c k).layout (blockSide m * cols) border).Apart := by
  have wide : blockSide m ≤ blockSide m * cols :=
    Nat.le_mul_of_pos_right _ (Nat.zero_lt_of_lt c.isLt)
  unfold EdgeLayout.Apart Edge.layout blockEdge
  cases orientation with
  | vertical =>
    left
    dsimp only
    omega
  | horizontal =>
    right
    dsimp only
    omega

/-- Filtering the lines of an edge one after another, or in any other order, is filtering them all
    at once: each of them as it is in the buffer at first, with nothing changed but up to three
    bytes on each side of the edge. This is what happens to the edges of planes, and those of
    macroblocks meet the condition that lines lie apart. -/
theorem lines_are_filtered_at_once (filter : FilterKind) (kind : EdgeKind) (limits : EdgeLimits) :
    (∀ {size : Nat} {a : EdgeLayout} (within : a.Within size) (_ : a.Apart) (b : Buffer size),
      (∀ out, b.FilteredAtOnce filter kind limits within out ↔
        out = b.filterEdge filter kind limits within) ∧
      ∀ order, b.filterInOrder filter kind limits within order =
        b.filterEdge filter kind limits within) ∧
    (∀ {width height border : Nat} {e : Edge} (inside : e.Inside width height border)
      (p : Plane width height border),
      (p.filterEdge filter kind limits e inside).buffer =
        p.buffer.filterEdge filter kind limits inside.within) ∧
    ∀ {rows cols m border : Nat} (_ : 4 ≤ border) (orientation : Orientation) (r : Fin rows)
      (c : Fin cols) (k : Nat),
      ((Plane.blockEdge m orientation r c k).layout (Plane.blockSide m * cols) border).Apart := by
  refine ⟨fun within apart b => ⟨?_, ?_⟩, fun inside p => ?_, Plane.blockEdge_apart⟩
  · exact Buffer.filteredAtOnce_iff apart b
  · exact Buffer.filterInOrder_eq apart b
  · exact p.buffer_filterEdge filter kind limits inside

def twoLines : Buffer 19 :=
  ⟨⟨#[100, 100, 100, 100, 110, 110, 110, 110, 7, 90, 92, 94, 100, 112, 116, 118, 119, 8, 9]⟩, rfl⟩

/-- The second line varies so much that only the bytes next to the edge change. -/
def twoLinesFiltered : Buffer 19 :=
  ⟨⟨#[100, 100, 102, 104, 106, 108, 110, 110, 7, 90, 92, 94, 102, 110, 116, 118, 119, 8, 9]⟩, rfl⟩

theorem twoLines_within : (⟨4, 1, 9, 2⟩ : EdgeLayout).Within 19 := by decide

theorem twoLines_filtered :
    twoLinesFiltered = twoLines.filterEdge .normal .inner ⟨10, 40, 44, 4⟩ twoLines_within := by
  decide

theorem two_lines_are_filtered_at_once :
    let limits : EdgeLimits := ⟨10, 40, 44, 4⟩
    let a : EdgeLayout := ⟨4, 1, 9, 2⟩
    let e : Edge := ⟨.vertical, 4, 0, 2⟩
    (∃ within : a.Within 19, a.Apart ∧
      twoLines.FilteredAtOnce .normal .inner limits within twoLinesFiltered ∧
      twoLines.filterInOrder .normal .inner limits within Fin.revPerm = twoLinesFiltered) ∧
    (∃ inside : e.Inside 8 2 0,
      ((Plane.blank 8 2 0).filterEdge .normal .inner limits e inside).buffer =
        (Plane.blank 8 2 0).buffer.filterEdge .normal .inner limits inside.within) ∧
    4 ≤ 32 ∧ ((Plane.blockEdge 3 .horizontal 0 0 1).layout 16 32).Apart := by
  intro limits a e
  have apart : a.Apart := by decide
  have inside : e.Inside 8 2 0 := by
    change Plane.Covers 8 2 0 0 0 8 2
    decide
  obtain ⟨buffers, planes, macroblocks⟩ := lines_are_filtered_at_once .normal .inner limits
  refine ⟨⟨twoLines_within, apart, ?_, ?_⟩, ⟨inside, planes inside _⟩, by decide, ?_⟩
  · exact ((buffers twoLines_within apart twoLines).1 _).2 twoLines_filtered
  · exact ((buffers twoLines_within apart twoLines).2 _).trans twoLines_filtered.symm
  · exact macroblocks (m := 3) (by decide) .horizontal (0 : Fin 1) (0 : Fin 1) 1

end Vp8
