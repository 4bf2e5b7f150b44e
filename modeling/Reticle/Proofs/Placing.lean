import Mathlib.Tactic.Ring
import Reticle.Area.Offset
import Reticle.Proofs.Sightlines
import Reticle.Proofs.WholeNumbers

/-!
# Whole offsets on the grid

Offsets are turned and added to an anchor as doubles. An offset of whole rows and columns leads to
the cell that many steps ahead and that many to the side (`cellFrom?_turnedTo`); one that is too
large for exact arithmetic leads off the grid either way. Completing a list of whole offsets under
a symmetry gives whole offsets.
-/

namespace Reticle.Offset

/-- An offset of so many rows and columns. -/
structure Spans (o : Offset) (rows cols : Int) : Prop where
  row : Number.exact o.row = .finite rows
  col : Number.exact o.col = .finite cols

/-- An offset of whole rows and columns. -/
def IsWhole (o : Offset) : Prop :=
  ∃ rows cols, o.Spans rows cols

/-! ### Symmetries -/

/-- A quarter turn of a whole offset is whole. -/
theorem IsWhole.quarterTurn {o : Offset} (h : o.IsWhole) : o.quarterTurn.IsWhole := by
  obtain ⟨rows, cols, hspans⟩ := h
  refine ⟨-cols, rows, ?_, hspans.row⟩
  rw [Int.cast_neg]
  exact Number.exact_neg hspans.col

/-- The transpose of a whole offset is whole. -/
theorem IsWhole.transpose {o : Offset} (h : o.IsWhole) : o.transpose.IsWhole := by
  obtain ⟨rows, cols, hspans⟩ := h
  exact ⟨cols, rows, hspans.col, hspans.row⟩

/-- The turns of a whole offset are whole. -/
theorem IsWhole.of_mem_turns {o : Offset} (h : o.IsWhole) {i : Image} (hi : i ∈ o.turns) :
    i.offset.IsWhole := by
  unfold turns at hi
  simp only [List.mem_cons, List.not_mem_nil, or_false] at hi
  rcases hi with rfl | rfl | rfl | rfl
  · exact h
  · exact h.quarterTurn
  · exact h.quarterTurn.quarterTurn
  · exact h.quarterTurn.quarterTurn.quarterTurn

/-- What is kept of a list was on it. -/
theorem Image.mem_of_mem_distinct {images : List Image} {i : Image} (h : i ∈ distinct images) :
    i ∈ images := by
  have hfold : ∀ kept : List Image,
      i ∈ images.foldl (fun kept i => if kept.any (sameAs i) then kept else kept ++ [i]) kept →
        i ∈ kept ∨ i ∈ images := by
    clear h
    induction images with
    | nil => exact fun kept h => .inl h
    | cons j images ih =>
      intro kept h
      rw [List.foldl_cons] at h
      rcases ih _ h with h | h
      · split at h
        · exact .inl h
        · rcases List.mem_append.1 h with h | h
          · exact .inl h
          · exact .inr (List.mem_cons.2 (.inl (List.mem_singleton.1 h)))
      · exact .inr (List.mem_cons_of_mem _ h)
  exact (hfold [] h).resolve_left List.not_mem_nil

/-- Whole offsets stay whole when they are symmetrized. -/
theorem isWhole_of_mem_symmetrize {offsets : List Offset} (h : ∀ o ∈ offsets, o.IsWhole)
    {symmetry : Symmetry} {o : Offset} (ho : o ∈ symmetrize offsets symmetry) : o.IsWhole := by
  have himages : ∀ images : List Image, (∀ i ∈ images, i.offset.IsWhole) →
      o ∈ (Image.distinct images).map (·.offset) → o.IsWhole := by
    rintro images hwhole hmem
    obtain ⟨i, hi, rfl⟩ := List.mem_map.1 hmem
    exact hwhole i (Image.mem_of_mem_distinct hi)
  have hturns : ∀ i ∈ offsets.flatMap turns, i.offset.IsWhole := by
    intro i hi
    obtain ⟨o, ho, hi⟩ := List.mem_flatMap.1 hi
    exact (h o ho).of_mem_turns hi
  cases symmetry with
  | identity => exact h o ho
  | fourWay => exact himages _ hturns ho
  | eightWay =>
    refine himages _ (fun i hi => ?_) ho
    rcases List.mem_append.1 hi with hi | hi
    · exact hturns i hi
    · obtain ⟨_, hmem, hi⟩ := List.mem_flatMap.1 hi
      obtain ⟨o, ho, rfl⟩ := List.mem_map.1 hmem
      exact (h o ho).transpose.of_mem_turns hi

/-! ### Cells -/

variable {o : Offset} {rows cols : Int}

/-- A turned offset stands for the turned whole numbers, without any rounding. -/
theorem stands_turnedTo (h : o.Spans rows cols) (d : Direction) :
    Number.Stands 52 (o.turnedTo d).row (d.row * rows + d.quarterTurn.row * cols) ∧
      Number.Stands 52 (o.turnedTo d).col (d.col * rows + d.quarterTurn.col * cols) := by
  have hsum : ∀ {a b : Int}, (a = -1 ∨ a = 0 ∨ a = 1) → (b = -1 ∨ b = 0 ∨ b = 1) →
      Number.Stands 52 (Float.ofInt a * o.row + Float.ofInt b * o.col) (a * rows + b * cols) := by
    intro a b ha hb
    refine .of_rounds le_rfl ?_
    rw [Int.cast_add, Int.cast_mul, Int.cast_mul]
    exact Number.rounds_add (Number.exact_ofInt_mul ha h.row) (Number.exact_ofInt_mul hb h.col)
  exact ⟨hsum d.row_cases d.quarterTurn.row_cases, hsum d.col_cases d.quarterTurn.col_cases⟩

/-- An offset that stands for whole rows and columns leads to a cell of the grid exactly if that is
so many rows and columns away. -/
theorem cellFrom?_eq_some_iff {grid : Grid} {anchor c : Cell}
    (hrow : Number.Stands 52 o.row rows) (hcol : Number.Stands 52 o.col cols)
    (hanchor : grid.contains anchor = true) (hc : grid.contains c = true) :
    o.cellFrom? anchor = some c ↔ c = anchor.shift rows cols := by
  -- Adding the anchor takes one place of the distance that keeps far offsets off the grid, and
  -- adding a half before rounding takes another.
  have hside := grid.side_lt
  obtain ⟨hr, hr', hk, hk'⟩ := Grid.contains_iff.1 hc
  obtain ⟨har, har', hak, hak'⟩ := Grid.contains_iff.1 hanchor
  have hstands : ∀ {a n : Int} {x : Float}, 0 ≤ a → a < grid.side → Number.Stands 52 x n →
      Number.Stands 51 (Float.ofInt a + x) (a + n) := by
    intro a n x h0 h1 hx
    refine .add (by norm_num) (Number.exact_ofInt ?_) ?_ hx <;>
      (rw [abs_of_nonneg h0]; omega)
  have hbound : ∀ {k : Int}, k < grid.side → k < 0x7FFFFFFF := by
    intro k hk
    have := grid.reach_lt
    unfold Grid.side at hk
    omega
  have hrows := Number.round_eq_iff (hstands har har' hrow) hr (hbound hr')
  have hcols := Number.round_eq_iff (hstands hak hak' hcol) hk (hbound hk')
  obtain ⟨row, col⟩ := c
  unfold cellFrom? Cell.shift
  simp only [Option.ite_none_right_eq_some, Bool.and_eq_true, Option.some.injEq, Cell.mk.injEq]
  constructor
  · rintro ⟨⟨hfr, hfc⟩, hround, hround'⟩
    exact ⟨(hrows.1 ⟨hfr, hround⟩).symm, (hcols.1 ⟨hfc, hround'⟩).symm⟩
  · rintro ⟨hround, hround'⟩
    obtain ⟨hfr, hround⟩ := hrows.2 hround.symm
    obtain ⟨hfc, hround'⟩ := hcols.2 hround'.symm
    exact ⟨⟨hfr, hfc⟩, hround, hround'⟩

/-- Turned towards a direction, an offset leads so many steps ahead and so many to the side. -/
theorem cellFrom?_turnedTo {grid : Grid} {anchor c : Cell} (h : o.Spans rows cols) (d : Direction)
    (hanchor : grid.contains anchor = true) (hc : grid.contains c = true) :
    (o.turnedTo d).cellFrom? anchor = some c ↔
      c = (anchor.step d rows).step d.quarterTurn cols := by
  obtain ⟨hrow, hcol⟩ := stands_turnedTo h d
  rw [cellFrom?_eq_some_iff hrow hcol hanchor hc]
  have hcell : anchor.shift (d.row * rows + d.quarterTurn.row * cols)
      (d.col * rows + d.quarterTurn.col * cols) = (anchor.step d rows).step d.quarterTurn cols := by
    simp only [Cell.shift, Cell.step, Cell.mk.injEq]
    constructor <;> ring
  rw [hcell]

end Reticle.Offset
