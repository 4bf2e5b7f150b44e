import Mathlib.Data.List.Perm.Basic
import Reticle.Proofs.AreaCells
import Reticle.Proofs.LineOfSight

/-!
# The size of a line

A walk along the columns lists one cell for every step and two more for every step along both axes.
What it lists is described by what is left to the goal (`Walk.Trail`), so that counting the cells,
telling them apart and keeping them between the ends are inductions over the trail. With the cells
that the segment touches, which are all on the line, the line is the exact cover that
`Supercovers` asks for.
-/

namespace Reticle

namespace Walk

/-! ## Trails -/

/-- The cells listed from a cell to the goal, by the columns and rows that are left. -/
inductive Trail (w : Walk) : Nat → Nat → List Cell → Prop
  | arrived : Trail w 0 0 []
  | straight {cols rows : Nat} {cells : List Cell} : Trail w cols rows cells →
      Trail w (cols + 1) rows (w.before cols rows :: cells)
  | diagonal {cols rows : Nat} {cells : List Cell} : Trail w cols rows cells →
      Trail w (cols + 1) (rows + 1) (w.before cols rows :: w.before cols (rows + 1) ::
        w.before (cols + 1) rows :: cells)

variable {w : Walk} {cols rows : Nat} {cells : List Cell}

/-- With nothing left the walk is at its goal. -/
theorem before_zero (w : Walk) : w.before 0 0 = w.goal := by
  simp [before]

/-- At the goal nothing more is listed. -/
theorem cellsFrom_goal (w : Walk) (fuel : Nat) (drift : Int) :
    w.cellsFrom fuel w.goal drift = [] := by
  cases fuel with
  | zero => rfl
  | succ fuel => rw [cellsFrom, if_pos rfl]

/-- A walk along the columns leaves a trail. -/
theorem trail_cellsFrom (hw : w.Level) (fuel : Nat) (h : w.Balanced cols rows)
    (hfuel : cols ≤ fuel) :
    w.Trail cols rows (w.cellsFrom fuel (w.before cols rows) (w.lead (cols - 1) (rows - 1))) := by
  induction cols generalizing rows fuel with
  | zero =>
    have hrows : rows = 0 := by exact_mod_cast h.rows_eq_zero hw
    subst hrows
    rw [Nat.cast_zero, before_zero, cellsFrom_goal]
    exact .arrived
  | succ cols ih =>
    obtain ⟨fuel, rfl⟩ : ∃ n, fuel = n + 1 := ⟨fuel - 1, by omega⟩
    have hcols : (0 : Int) < (cols + 1 : Nat) := by omega
    -- Each round is one step of the trail.
    by_cases hd : w.Diagonal (cols + 1 : Nat) rows
    · have hpos := h.rows_pos_of_diagonal hw hcols hd
      obtain ⟨rows, rfl⟩ : ∃ n, rows = n + 1 := ⟨rows - 1, by omega⟩
      have hnext := h.diagonal hw hcols hd
      rw [cellsFrom_diagonal hw h hcols hd]
      push_cast at hnext ⊢
      rw [add_sub_cancel_right, add_sub_cancel_right] at hnext ⊢
      exact .diagonal (ih fuel hnext (by omega))
    · have hnext := h.straight hw hcols hd
      rw [cellsFrom_straight hw h hcols hd]
      push_cast at hnext ⊢
      rw [add_sub_cancel_right] at hnext ⊢
      exact .straight (ih fuel hnext (by omega))

/-- A trail has one cell for each column, and two more for each diagonal step, of which there are as
many as rows. -/
theorem Trail.length_eq (h : w.Trail cols rows cells) : cells.length = cols + 2 * rows := by
  induction h with
  | arrived => rfl
  | straight _ ih =>
    rw [List.length_cons, ih]
    omega
  | diagonal _ ih =>
    rw [List.length_cons, List.length_cons, List.length_cons, ih]
    omega

/-- The cell lies between another cell and the goal and is not that cell. -/
def Ahead (w : Walk) (cols rows : Nat) (c : Cell) : Prop :=
  ∃ k r : Nat, k ≤ cols ∧ r ≤ rows ∧ (k ≠ cols ∨ r ≠ rows) ∧ w.before k r = c

/-- What lies ahead of a cell lies ahead of every cell further from the goal. -/
theorem Ahead.mono {cols' rows' : Nat} {c : Cell} (h : w.Ahead cols rows c) (hcols : cols ≤ cols')
    (hrows : rows ≤ rows') : w.Ahead cols' rows' c := by
  obtain ⟨k, r, hk, hr, hne, hc⟩ := h
  exact ⟨k, r, by omega, by omega, by omega, hc⟩

/-- Every cell of a trail lies ahead of the cell where it starts. -/
theorem Trail.ahead (h : w.Trail cols rows cells) : ∀ c ∈ cells, w.Ahead cols rows c := by
  induction h with
  | arrived => exact fun c hc => absurd hc List.not_mem_nil
  | @straight cols rows cells _ ih =>
    intro c hc
    rcases List.mem_cons.1 hc with rfl | hc
    · exact ⟨cols, rows, by omega, by omega, by omega, rfl⟩
    · exact (ih c hc).mono (by omega) le_rfl
  | @diagonal cols rows cells _ ih =>
    intro c hc
    rw [List.mem_cons, List.mem_cons, List.mem_cons] at hc
    rcases hc with rfl | rfl | rfl | hc
    · exact ⟨cols, rows, by omega, by omega, by omega, rfl⟩
    · exact ⟨cols, rows + 1, by omega, by omega, by omega, rfl⟩
    · exact ⟨cols + 1, rows, by omega, by omega, by omega, rfl⟩
    · exact (ih c hc).mono (by omega) (by omega)

/-- What is left to the goal names a cell. -/
theorem before_inj (hcol : w.colStep ≠ 0) (hrow : w.rowStep ≠ 0) {k r k' r' : Int} :
    w.before k r = w.before k' r' ↔ k = k' ∧ r = r' := by
  simp only [before, Cell.mk.injEq, sub_right_inj, mul_left_inj' hcol, mul_left_inj' hrow]
  exact and_comm

/-- A cell is not ahead of itself, and no cell is ahead that has more columns or more rows left. -/
theorem not_ahead (hcol : w.colStep ≠ 0) (hrow : w.rowStep ≠ 0) (k r : Nat)
    (h : cols < k ∨ rows < r ∨ (k = cols ∧ r = rows)) : ¬ w.Ahead cols rows (w.before k r) := by
  rintro ⟨k', r', hk, hr, hne, heq⟩
  rw [before_inj hcol hrow] at heq
  omega

/-- A trail names no cell twice: the cells listed with a step lie behind those listed later. -/
theorem Trail.nodup (hcol : w.colStep ≠ 0) (hrow : w.rowStep ≠ 0) (h : w.Trail cols rows cells) :
    cells.Nodup := by
  induction h with
  | arrived => exact List.nodup_nil
  | straight htrail ih =>
    exact List.nodup_cons.2
      ⟨fun hmem => not_ahead hcol hrow _ _ (by omega) (htrail.ahead _ hmem), ih⟩
  | @diagonal cols rows cells htrail ih =>
    have hnext : w.before cols rows ∉ cells := fun hmem =>
      not_ahead hcol hrow cols rows (by omega) (htrail.ahead _ hmem)
    have hfirst : w.before cols (rows + 1) ∉ cells := fun hmem =>
      not_ahead hcol hrow cols (rows + 1) (by omega) (htrail.ahead _ hmem)
    have hsecond : w.before (cols + 1) rows ∉ cells := fun hmem =>
      not_ahead hcol hrow (cols + 1) rows (by omega) (htrail.ahead _ hmem)
    simp only [List.nodup_cons, List.mem_cons, before_inj hcol hrow, hnext, hfirst, hsecond, ih,
      or_false, and_true, not_false_eq_true]
    omega

/-- A trail with the cell where it starts lists no cell twice. -/
theorem Trail.nodup_cons (hcol : w.colStep ≠ 0) (hrow : w.rowStep ≠ 0)
    (h : w.Trail cols rows cells) : (w.before cols rows :: cells).Nodup :=
  List.nodup_cons.2 ⟨fun hmem => not_ahead hcol hrow _ _ (by omega) (h.ahead _ hmem),
    h.nodup hcol hrow⟩

/-- Along the rows a walk always has a step, also when it has no rows to go. -/
theorem rowStep_between_ne (start goal : Cell) : (between start goal).rowStep ≠ 0 := by
  simp only [between]
  split_ifs <;> decide

end Walk

/-! ## Walked cells -/

/-- The cell lies in the box between two cells. -/
structure Cell.InBox (c start goal : Cell) : Prop where
  le_row : min start.row goal.row ≤ c.row
  row_le : c.row ≤ max start.row goal.row
  le_col : min start.col goal.col ≤ c.col
  col_le : c.col ≤ max start.col goal.col

/-- The box does not depend on the order of its corners. -/
theorem Cell.InBox.symm {c start goal : Cell} (h : c.InBox start goal) : c.InBox goal start := by
  obtain ⟨h₁, h₂, h₃, h₄⟩ := h
  constructor <;> omega

/-- What lies ahead of the start lies in the box between start and goal. -/
theorem Walk.Ahead.inBox {c start goal : Cell}
    (h : (between start goal).Ahead (goal.col - start.col).natAbs (goal.row - start.row).natAbs c) :
    c.InBox start goal := by
  obtain ⟨k, r, hk, hr, -, rfl⟩ := h
  simp only [before, between]
  constructor <;> dsimp only <;> split_ifs <;> omega

/-- Between two cells that are farther apart along the columns, the walked cells are the first one
and a trail to the second. -/
theorem exists_trail {start goal : Cell} (hw : (Walk.between start goal).Level) :
    ∃ cells, walkedCells start goal = start :: cells ∧
      (Walk.between start goal).Trail (goal.col - start.col).natAbs (goal.row - start.row).natAbs
        cells := by
  have hstart : (Walk.between start goal).before (goal.col - start.col).natAbs
      (goal.row - start.row).natAbs = start := Walk.before_between start goal
  have hfuel : (goal.col - start.col).natAbs ≤
      (max (Walk.between start goal).rows (Walk.between start goal).cols).toNat := by
    simp only [Walk.between]
    omega
  have htrail := Walk.trail_cellsFrom hw _ (Walk.balanced_between hw) hfuel
  have hnodup := htrail.nodup_cons hw.colStep_ne (Walk.rowStep_between_ne start goal)
  have hdrift := Walk.lead_between_sub_one start goal
  change (Walk.between start goal).lead ((goal.col - start.col).natAbs - 1)
    ((goal.row - start.row).natAbs - 1) = _ at hdrift
  rw [hstart, hdrift] at htrail hnodup
  exact ⟨_, eraseDups_of_nodup hnodup, htrail⟩

/-- No cell is walked twice. -/
theorem nodup_walkedCells (start goal : Cell) : (walkedCells start goal).Nodup :=
  nodup_eraseDups _

/-- From the other side of the diagonal the walked cells are the same, in some order. -/
theorem walkedCells_transpose (start goal : Cell) :
    ((walkedCells start goal).map Cell.transpose).Perm
      (walkedCells start.transpose goal.transpose) := by
  refine (List.perm_ext_iff_of_nodup ((nodup_walkedCells _ _).map Cell.transpose_injective)
    (nodup_walkedCells _ _)).2 fun c => ?_
  rw [← c.transpose_transpose, List.mem_map_of_injective Cell.transpose_injective,
    mem_walkedCells_transpose]

/-- A walk lists both ends, a cell for each step, and two more for each step along both axes. -/
theorem length_walkedCells {start goal : Cell} (hne : start ≠ goal) :
    (walkedCells start goal).length =
      max (goal.row - start.row).natAbs (goal.col - start.col).natAbs +
        2 * min (goal.row - start.row).natAbs (goal.col - start.col).natAbs + 1 := by
  rcases le_total (Walk.between start goal).rows (Walk.between start goal).cols with hle | hle
  · obtain ⟨cells, hcells, htrail⟩ := exists_trail (Walk.level_between hne hle)
    rw [hcells, List.length_cons, htrail.length_eq]
    simp only [Walk.between] at hle
    omega
  · obtain ⟨cells, hcells, htrail⟩ :=
      exists_trail (Walk.level_between (Cell.transpose_injective.ne hne) hle)
    have hlength := (walkedCells_transpose start goal).length_eq
    rw [List.length_map, hcells, List.length_cons, htrail.length_eq] at hlength
    rw [hlength]
    simp only [Walk.between, Cell.transpose] at hle ⊢
    omega

/-- A walk stays in the box between its ends. -/
theorem inBox_of_mem_walkedCells {c start goal : Cell} (hne : start ≠ goal)
    (h : c ∈ walkedCells start goal) : c.InBox start goal := by
  have hlevel : ∀ {c start goal : Cell}, (Walk.between start goal).Level →
      c ∈ walkedCells start goal → c.InBox start goal := by
    intro c start goal hw h
    obtain ⟨cells, hcells, htrail⟩ := exists_trail hw
    rw [hcells] at h
    rcases List.mem_cons.1 h with rfl | h
    · constructor <;> omega
    · exact (htrail.ahead c h).inBox
  rcases le_total (Walk.between start goal).rows (Walk.between start goal).cols with hle | hle
  · exact hlevel (Walk.level_between hne hle) h
  · obtain ⟨h₁, h₂, h₃, h₄⟩ := hlevel (Walk.level_between (Cell.transpose_injective.ne hne) hle)
      (mem_walkedCells_transpose.2 h)
    exact ⟨h₃, h₄, h₁, h₂⟩

/-- A walk includes its start. -/
theorem start_mem_walkedCells (start goal : Cell) : start ∈ walkedCells start goal :=
  mem_walkedCells.2 (Or.inl rfl)

/-- A walk includes its goal. -/
theorem goal_mem_walkedCells {start goal : Cell} (hne : start ≠ goal) :
    goal ∈ walkedCells start goal := by
  have hcols : 0 ≤ (Walk.between start goal).cols := Int.natCast_nonneg _
  have hrows : 0 ≤ (Walk.between start goal).rows := Int.natCast_nonneg _
  have hlead : (Walk.between start goal).lead 0 0 = 0 := by simp [Walk.lead]
  have hmem := mem_walkedCells_of_near hne
    ⟨le_rfl, hcols, le_rfl, hrows, by omega, by omega⟩
  rwa [Walk.before_zero] at hmem

/-! ## Lines -/

/-- The cells are the exact cover of a segment: distinct, between its ends, the first left out, and
with every other cell whose closed square the segment touches. Their number is that of the steps of
a walk and two for each step along both axes. -/
structure Supercovers (cells : List Cell) (start goal : Cell) : Prop where
  nodup : cells.Nodup
  length_eq : cells.length =
    max (goal.row - start.row).natAbs (goal.col - start.col).natAbs +
      2 * min (goal.row - start.row).natAbs (goal.col - start.col).natAbs
  inBox : ∀ c ∈ cells, c.InBox start goal
  goal_mem : goal ∈ cells
  start_not_mem : start ∉ cells
  touched : ∀ c, c ≠ start → (segment ℝ start.point goal.point ∩ c.square).Nonempty → c ∈ cells

/-- The walk from either end, as far as its order does not matter. -/
theorem lineCells_perm {start goal : Cell} (hne : start ≠ goal) :
    ∃ walked, (lineCells start goal).Perm (walked.erase start) ∧ walked.Nodup ∧
      (walked = walkedCells start goal ∨ walked = walkedCells goal start) := by
  unfold lineCells
  rw [if_neg hne]
  split_ifs
  · refine ⟨walkedCells goal start, ?_, nodup_walkedCells _ _, Or.inr rfl⟩
    rw [(nodup_walkedCells goal start).erase_eq_filter, List.filter_reverse]
    exact List.reverse_perm _
  · refine ⟨walkedCells start goal, ?_, nodup_walkedCells _ _, Or.inl rfl⟩
    rw [(nodup_walkedCells start goal).erase_eq_filter]

/-- The line covers every square that the segment touches. -/
theorem supercovers_lineCells {start goal : Cell} (hne : start ≠ goal) :
    Supercovers (lineCells start goal) start goal := by
  obtain ⟨walked, hperm, hnodup, hwalked⟩ := lineCells_perm hne
  have hlength : walked.length = max (goal.row - start.row).natAbs (goal.col - start.col).natAbs +
      2 * min (goal.row - start.row).natAbs (goal.col - start.col).natAbs + 1 := by
    rcases hwalked with rfl | rfl
    · exact length_walkedCells hne
    · rw [length_walkedCells hne.symm]
      omega
  have hstart : start ∈ walked := by
    rcases hwalked with rfl | rfl
    · exact start_mem_walkedCells _ _
    · exact goal_mem_walkedCells hne.symm
  have hgoal : goal ∈ walked := by
    rcases hwalked with rfl | rfl
    · exact goal_mem_walkedCells hne
    · exact start_mem_walkedCells _ _
  have hbox : ∀ c ∈ walked, c.InBox start goal := by
    intro c hc
    rcases hwalked with rfl | rfl
    · exact inBox_of_mem_walkedCells hne hc
    · exact (inBox_of_mem_walkedCells hne.symm hc).symm
  -- The line is the walk from either end without the start.
  have hmem : ∀ c, c ∈ lineCells start goal ↔ c ≠ start ∧ c ∈ walked := by
    intro c
    rw [hperm.mem_iff, hnodup.mem_erase_iff]
  refine ⟨hperm.nodup_iff.2 (hnodup.erase start), ?_, fun c hc => hbox c ((hmem c).1 hc).2,
    (hmem goal).2 ⟨hne.symm, hgoal⟩, fun hc => ((hmem start).1 hc).1 rfl,
    fun c hc htouch => mem_lineCells_of_touches hne hc htouch⟩
  rw [hperm.length_eq, List.length_erase_of_mem hstart, hlength]
  omega

end Reticle
