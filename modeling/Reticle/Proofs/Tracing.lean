import Mathlib.Algebra.Order.Ring.Int
import Mathlib.Data.List.Basic
import Mathlib.Tactic.Linarith
import Mathlib.Tactic.Ring
import Reticle.Plane.Trace

/-!
# The walk covers its line

A walk is followed backwards from its goal: a cell is named by the columns and rows that are left
from it to the goal. `Walk.lead` measures how far such a cell lies off the straight line, and the
walk keeps it within half a cell of the longer axis (`Walk.Balanced`), whichever way ties fall. So
every cell that lies near enough to the line to be touched by it (`Walk.Near`) is listed
(`mem_walkedCells_of_near`). The proof is written for walks along the columns; exchanging rows and
columns gives the others.
-/

namespace Reticle

namespace Walk

/-! ## Cells by what is left to the goal -/

/-- The cell from which so many columns and rows are left to the goal. -/
def before (w : Walk) (cols rows : Int) : Cell :=
  ⟨w.goal.row - rows * w.rowStep, w.goal.col - cols * w.colStep⟩

/-- How far a cell lies off the straight line, in units that make it a whole number. -/
def lead (w : Walk) (cols rows : Int) : Int :=
  w.rows * cols - w.cols * rows

/-- Going nearer to the goal changes the lead by a fixed amount for each column and row. -/
theorem lead_sub (w : Walk) (cols rows c r : Int) :
    w.lead (cols - c) (rows - r) = w.lead cols rows - w.rows * c + w.cols * r := by
  unfold lead
  ring

/-- The cell lies between the ends and close enough to the line for their squares to meet. -/
structure Near (w : Walk) (cols rows : Int) : Prop where
  cols_nonneg : 0 ≤ cols
  cols_le : cols ≤ w.cols
  rows_nonneg : 0 ≤ rows
  rows_le : rows ≤ w.rows
  lead_le : 2 * w.lead cols rows ≤ w.cols + w.rows
  le_lead : -(w.cols + w.rows) ≤ 2 * w.lead cols rows

/-- The columns are the longer axis of the walk, which leads somewhere. -/
structure Level (w : Walk) : Prop where
  rows_nonneg : 0 ≤ w.rows
  rows_le : w.rows ≤ w.cols
  cols_pos : 0 < w.cols
  colStep_ne : w.colStep ≠ 0

/-- The walk stands within half a cell of its line. The last bound makes the columns advance even
when both axes are equally long. -/
structure Balanced (w : Walk) (cols rows : Int) : Prop where
  cols_nonneg : 0 ≤ cols
  rows_nonneg : 0 ≤ rows
  le_lead : -w.cols ≤ 2 * w.lead cols rows
  lead_lt : 2 * w.lead cols rows < w.cols
  lt_lead : w.rows - 2 * w.cols < 2 * w.lead cols rows

/-! ## One step -/

/-- Whether a walk with such a drift advances along the columns. -/
def alongCols (w : Walk) (drift : Int) : Bool :=
  decide (-w.rows < 2 * drift)

/-- Whether a walk with such a drift advances along the rows. -/
def alongRows (w : Walk) (drift : Int) : Bool :=
  decide (2 * drift < w.cols)

/-- The cell that the next step leads to. -/
def next (w : Walk) (here : Cell) (drift : Int) : Cell :=
  ⟨here.row + (if w.alongRows drift then w.rowStep else 0),
    here.col + (if w.alongCols drift then w.colStep else 0)⟩

/-- The drift after the next step. -/
def nextDrift (w : Walk) (drift : Int) : Int :=
  drift - (if w.alongCols drift then w.rows else 0) + (if w.alongRows drift then w.cols else 0)

/-- The two cells that a step along both axes to a cell passes between. -/
def passed (w : Walk) (next : Cell) (drift : Int) : List Cell :=
  if w.alongCols drift && w.alongRows drift then
    [⟨next.row - w.rowStep, next.col⟩, ⟨next.row, next.col - w.colStep⟩]
  else []

/-- Away from the goal a round lists the next cell, the cells passed at a corner, and what the
further rounds list. -/
theorem cellsFrom_succ (w : Walk) (fuel : Nat) {here : Cell} (hne : here ≠ w.goal) (drift : Int) :
    w.cellsFrom (fuel + 1) here drift =
      w.next here drift :: (w.passed (w.next here drift) drift ++
        w.cellsFrom fuel (w.next here drift) (w.nextDrift drift)) := by
  rw [cellsFrom, if_neg hne]
  rfl

section step

variable {w : Walk} {cols rows : Int}

/-- With a column left the walk is not at its goal. -/
theorem before_ne_goal (hw : w.Level) (hcols : 0 < cols) : w.before cols rows ≠ w.goal := by
  intro h
  have hcol : w.goal.col - cols * w.colStep = w.goal.col := congrArg Cell.col h
  have hprod : cols * w.colStep ≠ 0 := Int.mul_ne_zero hcols.ne' hw.colStep_ne
  omega

/-- At the last column no row is left. -/
theorem Balanced.rows_eq_zero (hw : w.Level) (h : w.Balanced 0 rows) : rows = 0 := by
  by_contra hne
  have hpos : 1 ≤ rows := by have := h.rows_nonneg; omega
  have hmul : w.cols * 1 ≤ w.cols * rows := Int.mul_le_mul_of_nonneg_left hpos hw.cols_pos.le
  have := h.le_lead
  have := hw.cols_pos
  unfold lead at *
  linarith

/-- In a column of the walk only the walk's own cell and its neighbours are near the line. -/
theorem Balanced.sub_le_one (hw : w.Level) (h : w.Balanced cols rows) {r : Int}
    (hnear : w.Near cols r) : rows - r ≤ 1 := by
  by_contra hgap
  have hmul : w.cols * 2 ≤ w.cols * (rows - r) :=
    Int.mul_le_mul_of_nonneg_left (by omega) hw.cols_pos.le
  have hlead : w.lead cols r = w.lead cols rows + w.cols * (rows - r) := by
    unfold lead
    ring
  have := hnear.lead_le
  have := h.le_lead
  have := hw.cols_pos
  have := hw.rows_le
  linarith

/-- What a step along both axes needs: the line has gained enough on the walk. -/
def Diagonal (w : Walk) (cols rows : Int) : Prop :=
  2 * w.lead (cols - 1) (rows - 1) < w.cols

instance (w : Walk) (cols rows : Int) : Decidable (w.Diagonal cols rows) :=
  inferInstanceAs (Decidable (_ < _))

/-- Whether a step is diagonal, in terms of the lead. -/
theorem diagonal_iff : w.Diagonal cols rows ↔ 2 * w.lead cols rows < 2 * w.rows - w.cols := by
  unfold Diagonal
  rw [lead_sub]
  constructor <;> intro h <;> linarith

/-- A step along both axes leaves no row short. -/
theorem Balanced.rows_pos_of_diagonal (hw : w.Level) (h : w.Balanced cols rows) (hcols : 0 < cols)
    (hd : w.Diagonal cols rows) : 0 < rows := by
  by_contra hrows
  have hzero : rows = 0 := by have := h.rows_nonneg; omega
  rw [diagonal_iff, hzero] at hd
  have hmul : w.rows * 1 ≤ w.rows * cols := Int.mul_le_mul_of_nonneg_left hcols hw.rows_nonneg
  have := hw.cols_pos
  unfold lead at hd
  linarith

/-- A diagonal step leaves the walk balanced. -/
theorem Balanced.diagonal (hw : w.Level) (h : w.Balanced cols rows) (hcols : 0 < cols)
    (hd : w.Diagonal cols rows) : w.Balanced (cols - 1) (rows - 1) := by
  have hrows := h.rows_pos_of_diagonal hw hcols hd
  rw [diagonal_iff] at hd
  have hlead := lead_sub w cols rows 1 1
  obtain ⟨_, _, hle, hlt, hgt⟩ := h
  obtain ⟨_, hrc, _, _⟩ := hw
  constructor <;> omega

/-- A straight step leaves the walk balanced. -/
theorem Balanced.straight (hw : w.Level) (h : w.Balanced cols rows) (hcols : 0 < cols)
    (hd : ¬ w.Diagonal cols rows) : w.Balanced (cols - 1) rows := by
  rw [diagonal_iff] at hd
  have hlead := lead_sub w cols rows 1 0
  rw [Int.sub_zero] at hlead
  obtain ⟨_, _, hle, hlt, hgt⟩ := h
  obtain ⟨_, hrc, _, _⟩ := hw
  constructor <;> omega

/-- A balanced walk always advances along its longer axis. -/
theorem Balanced.alongCols (h : w.Balanced cols rows) :
    w.alongCols (w.lead (cols - 1) (rows - 1)) = true := by
  have := h.lt_lead
  unfold Walk.alongCols
  rw [decide_eq_true_iff, lead_sub]
  linarith

/-- It advances along the other axis when the step is diagonal. -/
theorem alongRows_eq_decide_diagonal :
    w.alongRows (w.lead (cols - 1) (rows - 1)) = decide (w.Diagonal cols rows) := rfl

/-- A diagonal step leaves one column and one row less. -/
theorem next_diagonal (h : w.Balanced cols rows) (hd : w.Diagonal cols rows) :
    w.next (w.before cols rows) (w.lead (cols - 1) (rows - 1)) =
      w.before (cols - 1) (rows - 1) := by
  simp only [next, h.alongCols, alongRows_eq_decide_diagonal, hd, decide_true, if_true, before,
    Cell.mk.injEq]
  constructor <;> ring

/-- The drift follows a diagonal step. -/
theorem nextDrift_diagonal (h : w.Balanced cols rows) (hd : w.Diagonal cols rows) :
    w.nextDrift (w.lead (cols - 1) (rows - 1)) = w.lead (cols - 1 - 1) (rows - 1 - 1) := by
  simp only [nextDrift, h.alongCols, alongRows_eq_decide_diagonal, hd, decide_true, if_true]
  rw [lead_sub w (cols - 1)]
  ring

/-- A straight step leaves one column less. -/
theorem next_straight (h : w.Balanced cols rows) (hd : ¬ w.Diagonal cols rows) :
    w.next (w.before cols rows) (w.lead (cols - 1) (rows - 1)) = w.before (cols - 1) rows := by
  simp only [next, h.alongCols, alongRows_eq_decide_diagonal, hd, decide_false, if_true,
    Bool.false_eq_true, if_false, before, Cell.mk.injEq]
  constructor <;> ring

/-- The drift follows a straight step. -/
theorem nextDrift_straight (h : w.Balanced cols rows) (hd : ¬ w.Diagonal cols rows) :
    w.nextDrift (w.lead (cols - 1) (rows - 1)) = w.lead (cols - 1 - 1) (rows - 1) := by
  simp only [nextDrift, h.alongCols, alongRows_eq_decide_diagonal, hd, decide_false, if_true,
    Bool.false_eq_true, if_false]
  unfold lead
  ring

/-- A step along both axes lists the next cell and the two cells beside the step. -/
theorem cellsFrom_diagonal (hw : w.Level) (h : w.Balanced cols rows) (hcols : 0 < cols)
    (hd : w.Diagonal cols rows) (fuel : Nat) :
    w.cellsFrom (fuel + 1) (w.before cols rows) (w.lead (cols - 1) (rows - 1)) =
      w.before (cols - 1) (rows - 1) :: w.before (cols - 1) rows :: w.before cols (rows - 1) ::
        w.cellsFrom fuel (w.before (cols - 1) (rows - 1))
          (w.lead (cols - 1 - 1) (rows - 1 - 1)) := by
  have hpassed : w.passed (w.before (cols - 1) (rows - 1)) (w.lead (cols - 1) (rows - 1)) =
      [w.before (cols - 1) rows, w.before cols (rows - 1)] := by
    simp only [passed, h.alongCols, alongRows_eq_decide_diagonal, hd, decide_true, Bool.and_self,
      if_true, before, List.cons.injEq, Cell.mk.injEq, and_true, true_and]
    constructor <;> ring
  rw [cellsFrom_succ w fuel (before_ne_goal hw hcols), next_diagonal h hd, nextDrift_diagonal h hd,
    hpassed]
  rfl

/-- A step along the columns alone lists the next cell. -/
theorem cellsFrom_straight (hw : w.Level) (h : w.Balanced cols rows) (hcols : 0 < cols)
    (hd : ¬ w.Diagonal cols rows) (fuel : Nat) :
    w.cellsFrom (fuel + 1) (w.before cols rows) (w.lead (cols - 1) (rows - 1)) =
      w.before (cols - 1) rows ::
        w.cellsFrom fuel (w.before (cols - 1) rows) (w.lead (cols - 1 - 1) (rows - 1)) := by
  have hpassed : w.passed (w.before (cols - 1) rows) (w.lead (cols - 1) (rows - 1)) = [] := by
    simp [passed, alongRows_eq_decide_diagonal, hd]
  rw [cellsFrom_succ w fuel (before_ne_goal hw hcols), next_straight h hd, nextDrift_straight h hd,
    hpassed]
  rfl

end step

/-! ## All steps -/

/-- Something lies ahead of a walk only if it has columns left. -/
theorem Balanced.cols_pos_of_near {w : Walk} {cols rows c r : Int} (hw : w.Level)
    (h : w.Balanced cols rows) (hnear : w.Near c r)
    (hahead : c < cols ∨ (c = cols ∧ r < rows)) : 0 < cols := by
  have hc := hnear.cols_nonneg
  have hr := hnear.rows_nonneg
  by_contra hle
  obtain rfl : cols = 0 := by
    have := h.cols_nonneg
    omega
  have hrows := h.rows_eq_zero hw
  omega

/-- A cell near the line in the column of the walk and ahead of it makes the next step diagonal. -/
theorem Balanced.diagonal_of_near {w : Walk} {cols rows r : Int} (hw : w.Level)
    (h : w.Balanced cols rows) (hnear : w.Near cols r) (hr : r < rows) :
    w.Diagonal cols rows := by
  have hgap := h.sub_le_one hw hnear
  obtain rfl : r = rows - 1 := by omega
  have hlead := lead_sub w cols rows 0 1
  rw [Int.sub_zero] at hlead
  have hle := hnear.lead_le
  have hcols := hw.cols_pos
  have hpos : 0 < w.rows := by
    by_contra hzero
    have hz : w.rows = 0 := by
      have := hw.rows_nonneg
      omega
    have hmul : w.cols * 1 ≤ w.cols * rows :=
      Int.mul_le_mul_of_nonneg_left (by have := hnear.rows_nonneg; omega) hw.cols_pos.le
    have hbound := h.le_lead
    have hflat : w.lead cols rows = 0 * cols - w.cols * rows := by rw [lead, hz]
    linarith
  rw [diagonal_iff]
  omega

/-- Before a diagonal step a cell near the line in the row of the walk and ahead of it is the next
one. -/
theorem Diagonal.eq_of_near {w : Walk} {cols rows c : Int} (hw : w.Level)
    (hd : w.Diagonal cols rows) (hnear : w.Near c rows) (hc : c < cols) : c = cols - 1 := by
  by_contra hne
  have hmul : w.rows * 2 ≤ w.rows * (cols - c) :=
    Int.mul_le_mul_of_nonneg_left (by omega) hw.rows_nonneg
  have hlead : w.lead c rows = w.lead cols rows - w.rows * (cols - c) := by
    unfold lead
    ring
  have hbound := hnear.le_lead
  have hrows := hw.rows_nonneg
  rw [diagonal_iff] at hd
  linarith

/-- A walk along the columns lists every cell near its line that lies ahead of it: in a later
column, or in its own column one row further. -/
theorem mem_cellsFrom_of_near {w : Walk} (hw : w.Level) (fuel : Nat) {cols rows : Int}
    (h : w.Balanced cols rows) (hfuel : cols ≤ fuel) {c r : Int} (hnear : w.Near c r)
    (hrows : r ≤ rows) (hahead : c < cols ∨ (c = cols ∧ r < rows)) :
    w.before c r ∈ w.cellsFrom fuel (w.before cols rows) (w.lead (cols - 1) (rows - 1)) := by
  have hcols := h.cols_pos_of_near hw hnear hahead
  induction fuel generalizing cols rows with
  | zero => omega
  | succ fuel ih =>
    by_cases hd : w.Diagonal cols rows
    · have hnext := h.diagonal hw hcols hd
      rw [cellsFrom_diagonal hw h hcols hd]
      -- the cells of this column and the next are listed by the step itself, but for the one in
      -- the next column that lies a row further
      by_cases hcol : c = cols
      · subst hcol
        have hgap := h.sub_le_one hw hnear
        have hr : r = rows - 1 := by omega
        simp [hr]
      · by_cases hrow : r = rows
        · subst hrow
          simp [Diagonal.eq_of_near hw hd hnear (by omega)]
        · by_cases hsame : c = cols - 1 ∧ r = rows - 1
          · simp [hsame.1, hsame.2]
          · have hahead' : c < cols - 1 ∨ (c = cols - 1 ∧ r < rows - 1) := by omega
            have hrest := ih hnext (by omega) (by omega) hahead'
              (hnext.cols_pos_of_near hw hnear hahead')
            exact List.mem_cons_of_mem _ (List.mem_cons_of_mem _ (List.mem_cons_of_mem _ hrest))
    · have hnext := h.straight hw hcols hd
      have hcol : c ≠ cols := by
        rintro rfl
        exact hd (h.diagonal_of_near hw hnear (by omega))
      rw [cellsFrom_straight hw h hcols hd]
      by_cases hsame : c = cols - 1 ∧ r = rows
      · simp [hsame.1, hsame.2]
      · have hahead' : c < cols - 1 ∨ (c = cols - 1 ∧ r < rows) := by omega
        exact List.mem_cons_of_mem _ (ih hnext (by omega) (by omega) hahead'
          (hnext.cols_pos_of_near hw hnear hahead'))

end Walk

/-! ## Rows and columns exchanged -/

/-- The cell with row and column exchanged. -/
def Cell.transpose (c : Cell) : Cell :=
  ⟨c.col, c.row⟩

/-- Transposing twice gives the cell back. -/
@[simp] theorem Cell.transpose_transpose (c : Cell) : c.transpose.transpose = c := rfl

/-- Different cells have different transposes. -/
theorem Cell.transpose_injective : Function.Injective Cell.transpose :=
  Function.LeftInverse.injective Cell.transpose_transpose

namespace Walk

/-- The walk with rows and columns exchanged. -/
def transpose (w : Walk) : Walk :=
  ⟨w.goal.transpose, w.cols, w.rows, w.colStep, w.rowStep⟩

/-- Exchanging the axes changes the sign of the lead. -/
theorem lead_transpose (w : Walk) (cols rows : Int) :
    w.transpose.lead rows cols = -w.lead cols rows := by
  unfold lead transpose
  ring

/-- A walk is as near to its line when the axes are exchanged. -/
theorem Near.transpose {w : Walk} {cols rows : Int} (h : w.Near cols rows) :
    w.transpose.Near rows cols := by
  obtain ⟨hc, hcw, hr, hrw, hle, hge⟩ := h
  refine ⟨hr, hrw, hc, hcw, ?_, ?_⟩
  · rw [lead_transpose]
    show 2 * -w.lead cols rows ≤ w.rows + w.cols
    omega
  · rw [lead_transpose]
    show -(w.rows + w.cols) ≤ 2 * -w.lead cols rows
    omega

/-- Exchanging the axes exchanges the two steps. -/
theorem alongCols_transpose (w : Walk) (drift : Int) :
    w.transpose.alongCols (-drift) = w.alongRows drift := by
  have hiff : -w.cols < 2 * -drift ↔ 2 * drift < w.cols := by omega
  exact decide_eq_decide.2 hiff

/-- It does so the other way round, too. -/
theorem alongRows_transpose (w : Walk) (drift : Int) :
    w.transpose.alongRows (-drift) = w.alongCols drift := by
  have hiff : 2 * -drift < w.rows ↔ -w.rows < 2 * drift := by omega
  exact decide_eq_decide.2 hiff

/-- The next cell of the transposed walk is the transposed next cell. -/
theorem next_transpose (w : Walk) (here : Cell) (drift : Int) :
    w.transpose.next here.transpose (-drift) = (w.next here drift).transpose := by
  unfold next
  rw [alongCols_transpose, alongRows_transpose]
  rfl

/-- Exchanging the axes changes the sign of the drift. -/
theorem nextDrift_transpose (w : Walk) (drift : Int) :
    w.transpose.nextDrift (-drift) = -w.nextDrift drift := by
  unfold nextDrift
  rw [alongCols_transpose, alongRows_transpose]
  show -drift - (if w.alongRows drift then w.cols else 0) +
    (if w.alongCols drift then w.rows else 0) = _
  ring

/-- At a corner the transposed walk passes the transposed cells, in the other order. -/
theorem passed_transpose (w : Walk) (next : Cell) (drift : Int) :
    ((w.passed next drift).map Cell.transpose).Perm
      (w.transpose.passed next.transpose (-drift)) := by
  unfold passed
  rw [alongCols_transpose, alongRows_transpose, Bool.and_comm]
  split_ifs
  · exact List.Perm.swap _ _ _
  · exact List.Perm.nil

/-- The exchanged walk lists the exchanged cells; only the two cells beside a step change places. -/
theorem cellsFrom_transpose (w : Walk) (fuel : Nat) (here : Cell) (drift : Int) :
    ((w.cellsFrom fuel here drift).map Cell.transpose).Perm
      (w.transpose.cellsFrom fuel here.transpose (-drift)) := by
  induction fuel generalizing here drift with
  | zero => exact List.Perm.nil
  | succ fuel ih =>
    by_cases hgoal : here = w.goal
    · have hgoal' : here.transpose = w.transpose.goal := congrArg Cell.transpose hgoal
      rw [cellsFrom, cellsFrom, if_pos hgoal, if_pos hgoal']
      exact List.Perm.nil
    · have hgoal' : here.transpose ≠ w.transpose.goal := fun h => hgoal (Cell.transpose_injective h)
      rw [cellsFrom_succ w fuel hgoal, cellsFrom_succ w.transpose fuel hgoal', next_transpose,
        nextDrift_transpose, List.map_cons, List.map_append]
      exact ((w.passed_transpose _ drift).append (ih _ _)).cons _

/-! ## From one end to the other -/

/-- With all columns and rows left, the walk is at its start. -/
theorem before_between (start goal : Cell) :
    (between start goal).before (between start goal).cols (between start goal).rows = start := by
  obtain ⟨r, c⟩ := start
  simp only [before, between, Cell.mk.injEq]
  constructor
  · split_ifs <;> omega
  · split_ifs <;> omega

/-- The start lies on the line. -/
theorem lead_between (start goal : Cell) :
    (between start goal).lead (between start goal).cols (between start goal).rows = 0 := by
  unfold lead
  ring

/-- A walk sets out with the lead that its first step would leave. -/
theorem lead_between_sub_one (start goal : Cell) :
    (between start goal).lead ((between start goal).cols - 1) ((between start goal).rows - 1) =
      (between start goal).cols - (between start goal).rows := by
  rw [lead_sub, lead_between]
  ring

/-- A walk with no more rows than columns is level. -/
theorem level_between {start goal : Cell} (hne : start ≠ goal)
    (h : (between start goal).rows ≤ (between start goal).cols) :
    (between start goal).Level := by
  refine ⟨?_, h, ?_, ?_⟩
  · exact Int.natCast_nonneg _
  · by_contra hzero
    simp only [between] at h hzero
    refine hne ?_
    obtain ⟨r, c⟩ := start
    obtain ⟨r', c'⟩ := goal
    simp only [Cell.mk.injEq] at *
    omega
  · simp only [between]
    split_ifs <;> decide

/-- At its start a level walk is balanced. -/
theorem balanced_between {start goal : Cell} (h : (between start goal).Level) :
    (between start goal).Balanced (between start goal).cols (between start goal).rows := by
  have hlead := lead_between start goal
  obtain ⟨hrows, hle, hcols, -⟩ := h
  constructor <;> omega

end Walk

/-- The walked cells are the start and those that the rounds list. -/
theorem mem_walkedCells {c start goal : Cell} :
    c ∈ walkedCells start goal ↔ c = start ∨
      c ∈ (Walk.between start goal).cellsFrom
        (max (Walk.between start goal).rows (Walk.between start goal).cols).toNat start
        ((Walk.between start goal).cols - (Walk.between start goal).rows) := by
  unfold walkedCells
  rw [List.mem_eraseDups, List.mem_cons]

/-- Transposing both ends transposes the walked cells. -/
theorem mem_walkedCells_transpose {c start goal : Cell} :
    c.transpose ∈ walkedCells start.transpose goal.transpose ↔ c ∈ walkedCells start goal := by
  have hperm := (Walk.between start goal).cellsFrom_transpose
    (max (Walk.between start goal).cols (Walk.between start goal).rows).toNat start
    ((Walk.between start goal).cols - (Walk.between start goal).rows)
  have hmem := hperm.mem_iff (a := c.transpose)
  rw [List.mem_map_of_injective Cell.transpose_injective, Int.neg_sub] at hmem
  rw [mem_walkedCells, mem_walkedCells, Cell.transpose_injective.eq_iff,
    max_comm (Walk.between start goal).rows]
  exact or_congr Iff.rfl hmem.symm

/-- A walk along the columns lists every cell near its line. -/
theorem mem_walkedCells_of_level {start goal : Cell} (hw : (Walk.between start goal).Level)
    {cols rows : Int} (hnear : (Walk.between start goal).Near cols rows) :
    (Walk.between start goal).before cols rows ∈ walkedCells start goal := by
  have hbal := Walk.balanced_between hw
  rw [mem_walkedCells]
  by_cases hstart : cols = (Walk.between start goal).cols ∧ rows = (Walk.between start goal).rows
  · left
    rw [hstart.1, hstart.2, Walk.before_between]
  · right
    have hmem := Walk.mem_cellsFrom_of_near hw (max (Walk.between start goal).rows
      (Walk.between start goal).cols).toNat hbal (by omega) hnear hnear.rows_le
      (by have := hnear.cols_le; have := hnear.rows_le; omega)
    rwa [Walk.before_between, Walk.lead_between_sub_one] at hmem

/-- A walk lists every cell near its line. -/
theorem mem_walkedCells_of_near {start goal : Cell} (hne : start ≠ goal) {cols rows : Int}
    (hnear : (Walk.between start goal).Near cols rows) :
    (Walk.between start goal).before cols rows ∈ walkedCells start goal := by
  rcases le_total (Walk.between start goal).rows (Walk.between start goal).cols with hle | hle
  · exact mem_walkedCells_of_level (Walk.level_between hne hle) hnear
  · rw [← mem_walkedCells_transpose]
    have hne' : start.transpose ≠ goal.transpose := Cell.transpose_injective.ne hne
    exact mem_walkedCells_of_level (Walk.level_between hne' hle) hnear.transpose

/-- The cells of a line are those of the walk in reading order, without the start. -/
theorem mem_lineCells {c start goal : Cell} :
    c ∈ lineCells start goal ↔ start ≠ goal ∧ c ≠ start ∧
      c ∈ if goal < start then walkedCells goal start else walkedCells start goal := by
  unfold lineCells
  by_cases hne : start = goal
  · simp [hne]
  · rw [if_neg hne, List.mem_filter, bne_iff_ne]
    split_ifs
    · rw [List.mem_reverse]
      tauto
    · tauto

end Reticle
