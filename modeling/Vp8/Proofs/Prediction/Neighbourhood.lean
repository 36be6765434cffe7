import Mathlib.Data.List.OfFn
import Vp8.Proofs.Prediction.Footprint
import Vp8.Proofs.Table

/-!
What intra prediction looks at. Every sample that is taken from a plane is noted with its place.
Above and to the left of the picture these are the edges that a frame starts with, inside it they
are pixels that are there already, and to its right they repeat the last pixel of a row.
-/
namespace Vp8

structure Sight where
  x : Int
  y : Int
  value : UInt8
  deriving DecidableEq, Repr

def edgeSights {n : Nat} (place : Fin n → Int × Int) (edge : Vector UInt8 n) : List Sight :=
  List.ofFn fun i => ⟨(place i).1, (place i).2, edge.get i⟩

theorem mem_edgeSights {n : Nat} {place : Fin n → Int × Int} {edge : Vector UInt8 n} {s : Sight} :
    s ∈ edgeSights place edge ↔ ∃ i : Fin n, ⟨(place i).1, (place i).2, edge.get i⟩ = s :=
  List.mem_ofFn

namespace BlockEdges

variable {n width height border : Nat} {p : Plane width height border} {x y : Int}

def sights (e : BlockEdges n) (x y : Int) : List Sight :=
  edgeSights (fun i => (x + i, y - 1)) e.above ++ edgeSights (fun i => (x - 1, y + i)) e.left ++
    [⟨x - 1, y - 1, e.corner⟩]

theorem gather_sights
    (inside : Plane.Encloses width height border (x - 1) (y - 1) (n + 1) (n + 1))
    (row : Plane.Covers width height border (x - 1) (y - 1) (n + 1) 1)
    (column : Plane.Covers width height border (x - 1) (y - 1) 1 (n + 1)) {s : Sight}
    (seen : s ∈ (gather p x y n row column).sights x y) :
    s.value = p.sample s.x s.y ∧ (s.y = y - 1 ∧ x - 1 ≤ s.x ∧ s.x < x + n ∨
      s.x = x - 1 ∧ y ≤ s.y ∧ s.y < y + n) := by
  have look {u v : Int} (place : Plane.Encloses width height border u v 1 1)
      (holds : Plane.Holds width height border u v) : p.pixel u v holds = p.sample u v :=
    Plane.pixel_eq_sample p place holds
  unfold Plane.Encloses at inside look
  simp only [sights, gather, List.mem_append, mem_edgeSights, List.mem_singleton,
    get_ofFn] at seen
  rcases seen with (⟨i, rfl⟩ | ⟨i, rfl⟩) | rfl <;> dsimp only
  · exact ⟨look (by omega) _, by omega⟩
  · exact ⟨look (by omega) _, by omega⟩
  · exact ⟨look (by omega) _, by omega⟩

end BlockEdges

namespace SubblockEdges

variable {width height border : Nat} {p : Plane width height border} {x y line : Int}

def sights (e : SubblockEdges) (x y line : Int) : List Sight :=
  edgeSights (fun i => (x + i, if i.val < 4 then y - 1 else line)) e.above ++
    edgeSights (fun i => (x - 1, y + i)) e.left ++ [⟨x - 1, y - 1, e.corner⟩]

theorem gather_sights (inside : Plane.Encloses width height border (x - 1) (y - 1) 5 5)
    (further : Plane.Encloses width height border (x + 4) line 4 1)
    (readable : Readable width height border x y line) {s : Sight}
    (seen : s ∈ (gather p x y line readable).sights x y line) :
    s.value = p.sample s.x s.y ∧ (s.y = y - 1 ∧ x - 1 ≤ s.x ∧ s.x < x + 4 ∨
      s.y = line ∧ x + 4 ≤ s.x ∧ s.x < x + 8 ∨ s.x = x - 1 ∧ y ≤ s.y ∧ s.y < y + 4) := by
  have look {u v : Int} (place : Plane.Encloses width height border u v 1 1)
      (holds : Plane.Holds width height border u v) : p.pixel u v holds = p.sample u v :=
    Plane.pixel_eq_sample p place holds
  unfold Plane.Encloses at inside further look
  simp only [sights, gather, List.mem_append, mem_edgeSights, List.mem_singleton,
    get_ofFn] at seen
  rcases seen with (⟨i, rfl⟩ | ⟨i, rfl⟩) | rfl <;> dsimp only
  · have := i.isLt
    split
    · exact ⟨look (by omega) _, by omega⟩
    · exact ⟨look (by omega) _, by omega⟩
  · exact ⟨look (by omega) _, by omega⟩
  · exact ⟨look (by omega) _, by omega⟩

end SubblockEdges

namespace Plane

variable {width height border : Nat} {S T : Region} {p q : Plane width height border}

inductive Neighbour (S : Region) (p : Plane width height border) (side : Nat) :
    Int → Int → UInt8 → Prop where
  | above {x : Int} (left : -1 ≤ x) (right : x ≤ width + 3) : Neighbour S p side x (-1) 127
  | left {y : Int} (top : 0 ≤ y) (bottom : y < height) : Neighbour S p side (-1) y 129
  | pixel {x y : Int} (there : S x y) : Neighbour S p side x y (p.sample x y)
  | right {x : Int} {row : Nat} (follows : side * row < height) (beyond : width ≤ x)
      (near : x ≤ width + 3) (there : S (width - 1) ((side * row : Nat) - 1)) :
      Neighbour S p side x ((side * row : Nat) - 1) (p.sample (width - 1) ((side * row : Nat) - 1))

theorem Neighbour.carry {side : Nat} {x y : Int} {value : UInt8}
    (seen : Neighbour S p side x y value) (agree : Agree S p q) (larger : ∀ u v, S u v → T u v) :
    Neighbour T q side x y value := by
  cases seen with
  | above left right => exact .above left right
  | left top bottom => exact .left top bottom
  | pixel there =>
    rw [agree _ _ there]
    exact .pixel (larger _ _ there)
  | right follows beyond near there =>
    rw [agree _ _ there]
    exact .right follows beyond near (larger _ _ there)

/-- The edges of the picture, for a row of macroblocks that starts at `top`: above and to the left,
    and so many pixels to the right of the line above the row. -/
structure Edged (p : Plane width height border) (tail : Nat) (top : Int) : Prop where
  above : ∀ x : Int, -1 ≤ x → x < width + 4 → p.sample x (-1) = 127
  left : 0 < width → ∀ y : Int, 0 ≤ y → y < height → p.sample (-1) y = 129
  right : 0 < top → ∀ x : Int, width ≤ x → x < width + tail →
    p.sample x (top - 1) = p.sample (width - 1) (top - 1)

theorem setIntraEdges_edged (wide : 4 ≤ border) (p : Plane width height border)
    (room : EdgeRoom width height border) (tail : Nat) : (p.setIntraEdges room).Edged tail 0 := by
  have row : Encloses width height border (-1) (-1) (width + 5) 1 := by
    unfold Encloses
    omega
  have column : Encloses width height border (-1) 0 1 height := by
    unfold Encloses
    omega
  unfold setIntraEdges fill
  constructor
  · intro x low high
    rw [sample_update _ column, dif_neg (by unfold InBlock; omega), sample_update _ row,
      dif_pos (by unfold InBlock; omega)]
  · intro _ y low high
    rw [sample_update _ column, dif_pos (by unfold InBlock; omega)]
  · intro nothing
    contradiction

theorem Edged.apart {tail w h : Nat} {top x y : Int} (edged : Edged p tail top)
    (agree : Agree (Apart x y w h) p q) (left : 0 ≤ x) (below : top ≤ y) (inside : 0 ≤ y) :
    Edged q tail top := by
  constructor
  · intro u low high
    rw [← agree u (-1) (by unfold Apart InBlock; omega)]
    exact edged.above u low high
  · intro wide v low high
    rw [← agree (-1) v (by unfold Apart InBlock; omega)]
    exact edged.left wide v low high
  · intro further u low high
    rw [← agree u (top - 1) (by unfold Apart InBlock; omega),
      ← agree (width - 1) (top - 1) (by unfold Apart InBlock; omega)]
    exact edged.right further u low high

def Around (width height : Nat) (S : Region) (tail : Nat) (top : Int) : Region := fun x y =>
  (y = -1 ∧ -1 ≤ x ∧ x < width + 4) ∨ (x = -1 ∧ 0 ≤ y ∧ y < height) ∨ S x y ∨
    (0 < top ∧ y = top - 1 ∧ width ≤ x ∧ x < width + tail ∧ S (width - 1) y)

theorem Edged.neighbour {tail : Nat} (side : Nat) {row : Nat} {x y : Int}
    (edged : Edged p tail (side * row : Nat)) (few : tail ≤ 4) (wide : 0 < width)
    (follows : side * row < height)
    (around : Around width height S tail (side * row : Nat) x y) :
    Neighbour S p side x y (p.sample x y) := by
  rcases around with ⟨rfl, low, high⟩ | ⟨rfl, low, high⟩ | there | ⟨further, rfl, low, high, there⟩
  · rw [edged.above x low high]
    exact .above low (by omega)
  · rw [edged.left wide y low high]
    exact .left low high
  · exact .pixel there
  · rw [edged.right further x low high]
    exact .right follows low (by omega) there

structure Watched (S : Region) (side tail : Nat) (top : Int) (p : Plane width height border)
    (seen : List Sight) : Prop where
  edged : Edged p tail top
  sights : ∀ s ∈ seen, Neighbour S p side s.x s.y s.value

theorem Watched.apart {side tail w h : Nat} {top x y : Int} {seen : List Sight}
    (watched : Watched S side tail top p seen) (agree : Agree (Apart x y w h) p q) (left : 0 ≤ x)
    (below : top ≤ y) (inside : 0 ≤ y) (new : ∀ u v, S u v → Apart x y w h u v)
    (larger : ∀ u v, S u v → T u v) : Watched T side tail top q seen := by
  constructor
  · exact watched.edged.apart agree left below inside
  · intro s member
    exact (watched.sights s member).carry (agree.mono new) larger

theorem Watched.mono {side tail : Nat} {top : Int} {seen : List Sight}
    (watched : Watched S side tail top p seen) (larger : ∀ u v, S u v → T u v) :
    Watched T side tail top p seen :=
  ⟨watched.edged, fun s member => (watched.sights s member).carry (fun _ _ _ => rfl) larger⟩

theorem Watched.append {side tail : Nat} {top : Int} {seen more : List Sight}
    (watched : Watched S side tail top p seen)
    (right : ∀ s ∈ more, Neighbour S p side s.x s.y s.value) :
    Watched S side tail top p (seen ++ more) := by
  refine ⟨watched.edged, ?_⟩
  intro s member
  rcases List.mem_append.mp member with old | new
  · exact watched.sights s old
  · exact right s new

theorem Watched.next {side tail row col : Nat} {seen : List Sight}
    (watched : Watched (Done width (side * col) (side * row) side) side tail (side * row : Nat) p
      seen)
    (agree : Agree (Apart (side * col : Nat) (side * row : Nat) side side) p q) :
    Watched (Done width (side * (col + 1)) (side * row) side) side tail (side * row : Nat) q
      seen := by
  rw [Nat.mul_succ]
  apply watched.apart agree
  · omega
  · omega
  · omega
  · intro u v done block
    unfold Done at done
    unfold InBlock at block
    omega
  · intro u v done
    unfold Done at *
    omega

theorem Edged.block {tail : Nat} (side : Nat) {row : Nat} (col : Nat)
    (edged : Edged p tail (side * row : Nat)) (few : tail ≤ 4)
    (room : 1 ≤ border) (some : 0 < side) (right : side * col + side ≤ width)
    (bottom : side * row + side ≤ height)
    (above : Covers width height border ((side * col : Nat) - 1) ((side * row : Nat) - 1)
      (side + 1) 1)
    (left : Covers width height border ((side * col : Nat) - 1) ((side * row : Nat) - 1)
      1 (side + 1)) :
    ∀ s ∈ (BlockEdges.gather p (side * col : Nat) (side * row : Nat) side above left).sights
        (side * col : Nat) (side * row : Nat),
      Neighbour (Done width (side * col) (side * row) side) p side s.x s.y s.value := by
  intro s seen
  obtain ⟨value, place⟩ := BlockEdges.gather_sights (by unfold Encloses; omega) above left seen
  rw [value]
  apply edged.neighbour side few (by omega) (by omega)
  unfold Around Done
  generalize side * row = top at *
  generalize side * col = start at *
  omega

end Plane

namespace Plane

theorem LumaFits.rowAbove {rows cols r c : Nat} (fits : LumaFits rows cols r c) :
    Covers (16 * cols) (16 * rows) 32 ((16 * c : Nat) - 1) ((16 * r : Nat) - 1) (16 + 1) 1 :=
  Covers.rowAbove fits (by omega) (by omega) (by decide)

theorem LumaFits.columnLeft {rows cols r c : Nat} (fits : LumaFits rows cols r c) :
    Covers (16 * cols) (16 * rows) 32 ((16 * c : Nat) - 1) ((16 * r : Nat) - 1) 1 (16 + 1) :=
  Covers.columnLeft fits (by omega) (by omega) (by decide)

theorem ChromaFits.rowAbove {rows cols r c : Nat} (fits : ChromaFits rows cols r c) :
    Covers (8 * cols) (8 * rows) 16 ((8 * c : Nat) - 1) ((8 * r : Nat) - 1) (8 + 1) 1 :=
  Covers.rowAbove fits (by omega) (by omega) (by decide)

theorem ChromaFits.columnLeft {rows cols r c : Nat} (fits : ChromaFits rows cols r c) :
    Covers (8 * cols) (8 * rows) 16 ((8 * c : Nat) - 1) ((8 * r : Nat) - 1) 1 (8 + 1) :=
  Covers.columnLeft fits (by omega) (by omega) (by decide)

variable {rows cols : Nat} {r : Fin rows} {c : Fin cols} {seen : List Sight}

section Luma

variable {p : Plane (16 * cols) (16 * rows) 32}

/-- The pixels in front of a sub-block: of macroblocks before its own, and of sub-blocks in it. -/
def SubblockDone (cols r c y x : Nat) : Region := fun u v =>
  Done (16 * cols) (16 * c) (16 * r) 16 u v ∨ Filled (16 * c : Nat) (16 * r : Nat) 4 y x u v

def subblockSights (p : Plane (16 * cols) (16 * rows) 32) {r c : Nat}
    (fits : LumaFits rows cols r c) (y x : Fin 4) : List Sight :=
  let left : Int := (16 * c : Nat) + (4 * x.val : Nat)
  let top : Int := (16 * r : Nat) + (4 * y.val : Nat)
  let line := aboveRightRow r y x
  (SubblockEdges.gather p left top line (LumaFits.readable fits y x)).sights left top line

def traceSubblocks (p : Plane (16 * cols) (16 * rows) 32) {r c : Nat}
    (fits : LumaFits rows cols r c) (modes : Vector SubblockMode 16)
    (residual : Option (BlockGrid 4)) : Plane (16 * cols) (16 * rows) 32 × List Sight :=
  foldBlocks 4 (fun t y x => (t.1.reconstructSubblock fits (modes.get (Block.position y x))
    (residual.map fun blocks => (blocks.get y).get x) y x, t.2 ++ t.1.subblockSights fits y x))
    (p, [])

theorem traceSubblocks_fst (p : Plane (16 * cols) (16 * rows) 32) {r c : Nat}
    (fits : LumaFits rows cols r c) (modes : Vector SubblockMode 16)
    (residual : Option (BlockGrid 4)) :
    (p.traceSubblocks fits modes residual).1 = p.reconstructSubblocks fits modes residual := by
  unfold traceSubblocks reconstructSubblocks
  rw [foldBlocks_commutes Prod.fst]
  intro t y x
  rfl

theorem Edged.subblock (edged : Edged p 4 (16 * r.val : Nat)) (fits : LumaFits rows cols r c)
    (y x : Fin 4) :
    ∀ s ∈ p.subblockSights fits y x,
      Neighbour (SubblockDone cols r c y x) p 16 s.x s.y s.value := by
  intro s seen
  -- in the last column the line above the macroblock stands in for what is not there yet
  have line : aboveRightRow r y x = (16 * r.val : Nat) - 1 ∧ x.val = 3 ∨
      aboveRightRow r y x = (16 * r.val : Nat) + (4 * y.val : Nat) - 1 ∧ x.val < 3 := by
    unfold aboveRightRow
    split <;> omega
  obtain ⟨value, place⟩ := SubblockEdges.gather_sights (by unfold Encloses; omega)
    (by unfold Encloses; omega) (LumaFits.readable fits y x) seen
  rw [value]
  apply edged.neighbour 16 (by decide) (by omega) (by omega)
  unfold Around SubblockDone Done Filled
  rcases place with above | further | left
  · omega
  · omega
  · omega

theorem Watched.reconstructSubblock {y x : Fin 4}
    (watched : Watched (SubblockDone cols r c y x) 16 4 (16 * r.val : Nat) p seen)
    (fits : LumaFits rows cols r c) (mode : SubblockMode) (residual : Option Block) :
    Watched (SubblockDone cols r c y (x + 1)) 16 4 (16 * r.val : Nat)
      (p.reconstructSubblock fits mode residual y x) (seen ++ p.subblockSights fits y x) := by
  apply (watched.append (watched.edged.subblock fits y x)).apart
    (p.reconstructSubblock_apart fits mode residual y x)
  · omega
  · omega
  · omega
  · intro u v done block
    unfold SubblockDone Done Filled at done
    unfold InBlock at block
    omega
  · intro u v done
    unfold SubblockDone Done Filled at *
    omega

def intraLumaSights (p : Plane (16 * cols) (16 * rows) 32) {r c : Nat}
    (fits : LumaFits rows cols r c) (m : Macroblock) (residual : Option (BlockGrid 4)) :
    List Sight :=
  if m.mode = .subblocks then (p.traceSubblocks fits m.subblockModes residual).2
  else
    let edges := BlockEdges.gather p (16 * c : Nat) (16 * r : Nat) 16 fits.rowAbove fits.columnLeft
    edges.sights (16 * c : Nat) (16 * r : Nat)

theorem Watched.traceSubblocks
    (watched : Watched (Done (16 * cols) (16 * c) (16 * r) 16) 16 4 (16 * r.val : Nat) p seen)
    (fits : LumaFits rows cols r c) (modes : Vector SubblockMode 16)
    (residual : Option (BlockGrid 4)) :
    Watched (SubblockDone cols r c 4 0) 16 4 (16 * r.val : Nat)
      (p.traceSubblocks fits modes residual).1
      (seen ++ (p.traceSubblocks fits modes residual).2) := by
  apply foldBlocks_invariant fun y x (t : Plane (16 * cols) (16 * rows) 32 × List Sight) =>
    Watched (SubblockDone cols r c y x) 16 4 (16 * r.val : Nat) t.1 (seen ++ t.2)
  · intro y x t watched
    dsimp only
    rw [← List.append_assoc]
    exact watched.reconstructSubblock fits _ _
  · intro y t watched
    apply watched.mono
    intro u v done
    unfold SubblockDone Done Filled at *
    omega
  · rw [List.append_nil]
    apply watched.mono
    intro u v done
    exact .inl done

theorem Watched.intraLuma
    (watched : Watched (Done (16 * cols) (16 * c) (16 * r) 16) 16 4 (16 * r.val : Nat) p seen)
    (fits : LumaFits rows cols r c) (m : Macroblock) (residual : Option (BlockGrid 4)) :
    Watched (Done (16 * cols) (16 * (c + 1)) (16 * r) 16) 16 4 (16 * r.val : Nat)
      (p.reconstructIntraLuma fits m residual) (seen ++ p.intraLumaSights fits m residual) := by
  by_cases split : m.mode = .subblocks
  · have watched := watched.traceSubblocks fits m.subblockModes residual
    rw [traceSubblocks_fst] at watched
    unfold reconstructIntraLuma intraLumaSights
    rw [if_pos split, if_pos split]
    apply watched.mono
    intro u v done
    unfold SubblockDone Done Filled at *
    omega
  · unfold intraLumaSights
    rw [if_neg split]
    have right := watched.edged.block 16 c.val (by decide) (by decide) (by decide) (by omega)
      (by omega) fits.rowAbove fits.columnLeft
    exact (watched.append right).next (p.reconstructIntraLuma_apart fits m residual)

theorem Watched.extendRowRight
    (watched : Watched (Done (16 * cols) (16 * cols) (16 * r) 16) 16 4 (16 * r.val : Nat) p seen)
    (room : Covers (16 * cols) (16 * rows) 32 ((16 * cols : Nat) - 1) (16 * r + 15) 5 1) :
    Watched (Done (16 * cols) (16 * 0) (16 * (r + 1)) 16) 16 4 (16 * (r.val + 1) : Nat)
      (p.extendRowRight (16 * r + 15) room) seen := by
  have row : (0 : Int) ≤ 16 * r + 15 ∧ (16 * r + 15 : Int) < (16 * rows : Nat) := by omega
  have line : ((16 * (r.val + 1) : Nat) : Int) - 1 = 16 * r + 15 := by omega
  constructor
  · constructor
    · intro x low high
      rw [p.sample_extendRowRight luma_room row, if_neg (by unfold InBlock; omega)]
      exact watched.edged.above x low high
    · intro wide y low high
      rw [p.sample_extendRowRight luma_room row, if_neg (by unfold InBlock; omega)]
      exact watched.edged.left wide y low high
    · intro _ x beyond near
      rw [line, p.sample_extendRowRight luma_room row, p.sample_extendRowRight luma_room row,
        if_pos (by unfold InBlock; omega), if_pos (by unfold InBlock; omega)]
  · intro s member
    apply (watched.sights s member).carry
    · intro u v done
      symm
      apply p.sample_extendRowRight_inner luma_room row
      unfold Done at done
      unfold Inner
      omega
    · intro u v done
      unfold Done at *
      omega

end Luma

section Chroma

variable {p q : Plane (8 * cols) (8 * rows) 16}

def intraChromaSights (p : Plane (8 * cols) (8 * rows) 16) {r c : Nat}
    (fits : ChromaFits rows cols r c) : List Sight :=
  let edges := BlockEdges.gather p (8 * c : Nat) (8 * r : Nat) 8 fits.rowAbove fits.columnLeft
  edges.sights (8 * c : Nat) (8 * r : Nat)

theorem Watched.intraChroma
    (watched : Watched (Done (8 * cols) (8 * c) (8 * r) 8) 8 0 (8 * r.val : Nat) p seen)
    (fits : ChromaFits rows cols r c) (m : Macroblock) (residual : Option (BlockGrid 2)) :
    Watched (Done (8 * cols) (8 * (c + 1)) (8 * r) 8) 8 0 (8 * r.val : Nat)
      (p.reconstructIntraChroma fits m residual) (seen ++ p.intraChromaSights fits) := by
  have right := watched.edged.block 8 c.val (by decide) (by decide) (by decide) (by omega)
    (by omega) fits.rowAbove fits.columnLeft
  exact (watched.append right).next (p.reconstructIntraChroma_apart fits m residual)

theorem Watched.nextRow
    (watched : Watched (Done (8 * cols) (8 * cols) (8 * r) 8) 8 0 (8 * r.val : Nat) p seen) :
    Watched (Done (8 * cols) (8 * 0) (8 * (r + 1)) 8) 8 0 (8 * (r.val + 1) : Nat) p seen := by
  constructor
  · refine ⟨watched.edged.above, watched.edged.left, ?_⟩
    intro _ x beyond near
    omega
  · intro s member
    apply (watched.sights s member).carry fun _ _ _ => rfl
    intro u v done
    unfold Done at *
    omega

end Chroma

end Plane

end Vp8
