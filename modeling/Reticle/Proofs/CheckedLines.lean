import Reticle.Plane.CheckedTrace
import Reticle.Proofs.CheckedNumbers
import Reticle.Proofs.Supercover

/-!
# Lines in 32 bits

The loop that walks along a line stops at the goal and nowhere else, and each of its rounds adds to
and subtracts from 32-bit numbers. Two invariants are kept by every round. The drift stays between
multiples of the two distances and no coordinate has moved farther than there were rounds, so every
number fits (`Walk.Roomy`). And so many rounds are left as the longer axis has cells to go, so the
goal is met in the last round and not before (`Walk.Underway`). Between cells of moderate size the
loop therefore ends after as many rounds as the longer axis has steps, and comes to the line.
-/

namespace Reticle

open Checked

namespace Walk

/-! ## Every number fits -/

/-- The ends of the walk are not too far apart. -/
structure Bounded (w : Walk) : Prop where
  rows_nonneg : 0 ≤ w.rows
  rows_le : w.rows ≤ 0x20000000
  cols_nonneg : 0 ≤ w.cols
  cols_le : w.cols ≤ 0x20000000
  rowStep_le : w.rowStep.natAbs ≤ 1
  colStep_le : w.colStep.natAbs ≤ 1

/-- With so many rounds left the coordinates and the drift have room for them. -/
structure Roomy (w : Walk) (left : Nat) (here : Cell) (drift : Int) : Prop where
  row_le : here.row.natAbs + left ≤ 0x30000000
  col_le : here.col.natAbs + left ≤ 0x30000000
  le_drift : -(3 * w.rows) ≤ 2 * drift
  drift_le : 2 * drift ≤ 3 * w.cols

variable {w : Walk} {left : Nat} {here : Cell} {drift : Int}

/-- The numbers that a round comes to, before it is known which way it goes. -/
def roundNumbers (w : Walk) (here : Cell) (drift : Int) : List Int :=
  [drift * 2, -w.rows, drift - w.rows, drift + w.cols, drift - w.rows + w.cols,
    here.col + w.colStep, here.row + w.rowStep, here.row + w.rowStep - w.rowStep,
    here.col + w.colStep - w.colStep]

/-- While there is room all of these numbers fit. -/
theorem Roomy.fits (hw : w.Bounded) (h : w.Roomy (left + 1) here drift) {n : Int}
    (hn : n ∈ w.roundNumbers here drift) : Number.Fits n := by
  obtain ⟨hR0, hR, hC0, hC, hrs, hcs⟩ := hw
  obtain ⟨hrow, hcol, hle, hge⟩ := h
  simp only [roundNumbers, List.mem_cons, List.not_mem_nil, or_false] at hn
  rw [Number.fits_iff]
  omega

/-- A round comes to what the walk does, and to no number out of range while there is room. -/
theorem checkedRound_refines {S : Prop} (hS : S → w.Bounded ∧ w.Roomy (left + 1) here drift) :
    (w.checkedRound here drift).Refines
      ⟨w.next here drift, w.passed (w.next here drift) drift, w.nextDrift drift⟩ S := by
  have hfit : ∀ {n : Int}, n ∈ w.roundNumbers here drift → (fit n).Refines n S :=
    fun hn => fit_refines fun hs => (hS hs).2.fits (hS hs).1 hn
  unfold checkedRound next passed nextDrift Walk.alongCols Walk.alongRows
  refine (hfit (by simp [roundNumbers])).bind ((hfit (by simp [roundNumbers])).bind ?_)
  rw [mul_comm drift]
  by_cases hc : -w.rows < 2 * drift <;> by_cases hr : 2 * drift < w.cols <;>
    simp only [hc, hr, decide_true, decide_false, if_true, if_false, Bool.and_true,
      Bool.and_false, Bool.false_eq_true, pure_eq_ok, ok_bind, sub_zero, add_zero]
  · -- A step along both axes, which also names the two cells that it passes.
    refine (hfit (by simp [roundNumbers])).bind ((hfit (by simp [roundNumbers])).bind ?_)
    refine (hfit (by simp [roundNumbers])).bind ((hfit (by simp [roundNumbers])).bind ?_)
    exact (hfit (by simp [roundNumbers])).bind ((hfit (by simp [roundNumbers])).bind (.of_ok _ S))
  · exact (hfit (by simp [roundNumbers])).bind ((hfit (by simp [roundNumbers])).bind (.of_ok _ S))
  · exact (hfit (by simp [roundNumbers])).bind ((hfit (by simp [roundNumbers])).bind (.of_ok _ S))
  · exact .of_ok _ S

/-- A round of the loop uses up some of the room and leaves enough for the others. -/
theorem Roomy.next (hw : w.Bounded) (h : w.Roomy (left + 1) here drift) :
    w.Roomy left (w.next here drift) (w.nextDrift drift) := by
  obtain ⟨hR0, hR, hC0, hC, hrs, hcs⟩ := hw
  obtain ⟨hrow, hcol, hle, hge⟩ := h
  unfold Walk.next nextDrift Walk.alongCols Walk.alongRows
  constructor <;> simp only [decide_eq_true_eq] <;> split_ifs <;> omega

/-! ## Only the last round ends at the goal -/

/-- A walk along the columns has so many columns left, and stands as it should. -/
def UnderwayAlongCols (w : Walk) (left : Nat) (here : Cell) (drift : Int) : Prop :=
  w.Level ∧ ∃ rows, w.Balanced left rows ∧ here = w.before left rows ∧
    drift = w.lead (left - 1) (rows - 1)

/-- A walk has so many cells left along its longer axis, and stands as it should. -/
def Underway (w : Walk) (left : Nat) (here : Cell) (drift : Int) : Prop :=
  w.UnderwayAlongCols left here drift ∨ w.transpose.UnderwayAlongCols left here.transpose (-drift)

/-- A walk along the columns is at its goal when no column is left. -/
theorem UnderwayAlongCols.eq_goal_iff (h : w.UnderwayAlongCols left here drift) :
    here = w.goal ↔ left = 0 := by
  obtain ⟨hw, rows, hbal, rfl, -⟩ := h
  constructor
  · intro hgoal
    by_contra hne
    exact before_ne_goal hw (by omega) hgoal
  · rintro rfl
    rw [show rows = 0 from hbal.rows_eq_zero hw]
    exact w.before_zero

/-- A round along the columns brings the walk one column nearer, standing as it should. -/
theorem UnderwayAlongCols.next (h : w.UnderwayAlongCols (left + 1) here drift) :
    w.UnderwayAlongCols left (w.next here drift) (w.nextDrift drift) := by
  obtain ⟨hw, rows, hbal, rfl, rfl⟩ := h
  have hpos : (0 : Int) < (left + 1 : Nat) := by omega
  have hleft : ((left + 1 : Nat) : Int) - 1 = left := by omega
  refine ⟨hw, ?_⟩
  by_cases hd : w.Diagonal (left + 1 : Nat) rows
  · rw [next_diagonal hbal hd, nextDrift_diagonal hbal hd, hleft]
    exact ⟨rows - 1, hleft ▸ hbal.diagonal hw hpos hd, rfl, rfl⟩
  · rw [next_straight hbal hd, nextDrift_straight hbal hd, hleft]
    exact ⟨rows, hleft ▸ hbal.straight hw hpos hd, rfl, rfl⟩

/-- A walk is at its goal when nothing is left along its longer axis. -/
theorem Underway.eq_goal_iff (h : w.Underway left here drift) : here = w.goal ↔ left = 0 := by
  rcases h with h | h
  · exact h.eq_goal_iff
  · rw [← h.eq_goal_iff]
    exact Cell.transpose_injective.eq_iff.symm

/-- A round of the loop brings the walk one cell nearer along its longer axis. -/
theorem Underway.next (h : w.Underway (left + 1) here drift) :
    w.Underway left (w.next here drift) (w.nextDrift drift) := by
  rcases h with h | h
  · exact Or.inl h.next
  · right
    rw [← next_transpose, ← nextDrift_transpose]
    exact h.next

/-! ## The whole loop -/

/-- The loop needs as many rounds as are left and comes to the cells of the walk. -/
theorem checkedCellsFrom_eq (hw : w.Bounded) (rounds : Nat) (hroom : w.Roomy left here drift)
    (hway : w.Underway left here drift) :
    w.checkedCellsFrom rounds here drift =
      if left ≤ rounds then .ok (w.cellsFrom left here drift) else .error .unfinished := by
  induction left generalizing rounds here drift with
  | zero =>
    have hgoal := hway.eq_goal_iff.2 rfl
    rw [if_pos (Nat.zero_le _)]
    cases rounds <;> rw [checkedCellsFrom, if_pos hgoal] <;> rfl
  | succ left ih =>
    have hgoal : here ≠ w.goal := fun h => Nat.succ_ne_zero left (hway.eq_goal_iff.1 h)
    cases rounds with
    | zero => rw [checkedCellsFrom, if_neg hgoal, if_neg (by omega)]
    | succ rounds =>
      have hround := (checkedRound_refines fun _ => ⟨hw, hroom⟩).answers trivial
      rw [checkedCellsFrom, if_neg hgoal, hround, ok_bind,
        ih rounds (hroom.next hw) hway.next, cellsFrom_succ w left hgoal]
      by_cases hle : left ≤ rounds
      · rw [if_pos hle, if_pos (by omega), ok_bind]
        rfl
      · rw [if_neg hle, if_neg (by omega), error_bind]

/-- Whether or not there is room, the loop comes to nothing but the cells of the walk. -/
theorem eq_of_checkedCellsFrom_eq_ok {cells : List Cell} (hway : w.Underway left here drift)
    (h : w.checkedCellsFrom left here drift = .ok cells) :
    cells = w.cellsFrom left here drift := by
  induction left generalizing here drift cells with
  | zero =>
    rw [checkedCellsFrom, if_pos (hway.eq_goal_iff.2 rfl)] at h
    exact (Except.ok.inj h).symm
  | succ left ih =>
    have hgoal : here ≠ w.goal := fun h => Nat.succ_ne_zero left (hway.eq_goal_iff.1 h)
    rw [checkedCellsFrom, if_neg hgoal] at h
    obtain ⟨round, hround, h⟩ := of_bind_eq_ok h
    obtain ⟨rest, hrest, h⟩ := of_bind_eq_ok h
    have hnever : False → w.Bounded ∧ w.Roomy (left + 1) here drift := False.elim
    obtain rfl := (checkedRound_refines hnever).agrees round hround
    rw [cellsFrom_succ w left hgoal, ← ih hway.next hrest]
    exact (Except.ok.inj h).symm

/-! ## Between two cells -/

variable {start goal : Cell}

/-- Between moderate cells the loop is set up without overflow. -/
theorem checkedBetween_refines {S : Prop} (hS : S → start.Moderate ∧ goal.Moderate) :
    (checkedBetween start goal).Refines (between start goal) S := by
  refine (fit_refines ?_).bind ((fit_refines ?_).bind ((fit_refines ?_).bind
    ((fit_refines ?_).bind (.of_ok _ S))))
  all_goals
    intro hs
    obtain ⟨⟨hsr, hsc⟩, hgr, hgc⟩ := hS hs
    rw [Number.fits_iff]
    omega

/-- Between moderate cells the measures of the walk are bounded. -/
theorem bounded_between (hstart : start.Moderate) (hgoal : goal.Moderate) :
    (between start goal).Bounded := by
  obtain ⟨hsr, hsc⟩ := hstart
  obtain ⟨hgr, hgc⟩ := hgoal
  constructor <;> simp only [between] <;> omega

/-- The loop starts with room for all its rounds. -/
theorem roomy_between (hstart : start.Moderate) (hgoal : goal.Moderate) :
    (between start goal).Roomy (rounds start goal) start
      ((between start goal).cols - (between start goal).rows) := by
  obtain ⟨hsr, hsc⟩ := hstart
  obtain ⟨hgr, hgc⟩ := hgoal
  constructor <;> simp only [rounds, between] <;> omega

/-- The loop starts underway, with as many rounds left as the longer distance has. -/
theorem underway_between (hne : start ≠ goal) :
    (between start goal).Underway (rounds start goal) start
      ((between start goal).cols - (between start goal).rows) := by
  have hlevel : ∀ {start goal : Cell}, start ≠ goal →
      (between start goal).rows ≤ (between start goal).cols →
      (between start goal).UnderwayAlongCols (rounds start goal) start
        ((between start goal).cols - (between start goal).rows) := by
    intro start goal hne hle
    have hw := level_between hne hle
    have hrounds : (rounds start goal : Int) = (between start goal).cols := by
      simp only [between] at hle
      simp only [rounds, between]
      omega
    refine ⟨hw, (between start goal).rows, ?_, ?_, ?_⟩
    · rw [hrounds]
      exact balanced_between hw
    · rw [hrounds, before_between]
    · rw [hrounds, lead_between_sub_one]
  rcases le_total (between start goal).rows (between start goal).cols with hle | hle
  · exact Or.inl (hlevel hne hle)
  · right
    have h := hlevel (Cell.transpose_injective.ne hne) hle
    rw [Int.neg_sub]
    rwa [show rounds start.transpose goal.transpose = rounds start goal from max_comm _ _] at h

end Walk

/-! ## Lines -/

variable {start goal : Cell}

/-- The walk as it is set up, with its first drift, when both cells are of moderate size. -/
theorem checkedWalkedCells_of_moderate (hstart : start.Moderate) (hgoal : goal.Moderate)
    (rounds : Nat) :
    checkedWalkedCells rounds start goal = do
      let cells ← (Walk.between start goal).checkedCellsFrom rounds start
        ((Walk.between start goal).cols - (Walk.between start goal).rows)
      return (start :: cells).eraseDups := by
  have hfit : Number.Fits ((Walk.between start goal).cols - (Walk.between start goal).rows) := by
    obtain ⟨hR0, hR, hC0, hC, -, -⟩ := Walk.bounded_between hstart hgoal
    rw [Number.fits_iff]
    omega
  unfold checkedWalkedCells
  rw [(Walk.checkedBetween_refines fun _ => ⟨hstart, hgoal⟩).answers trivial, ok_bind,
    (fit_exactly _).ok hfit, ok_bind]

/-- The walk between two cells takes so many rounds. -/
theorem walkedCells_eq_rounds (start goal : Cell) :
    walkedCells start goal = (start :: (Walk.between start goal).cellsFrom
      (Walk.rounds start goal) start
      ((Walk.between start goal).cols - (Walk.between start goal).rows)).eraseDups := by
  have hfuel : (max (Walk.between start goal).rows (Walk.between start goal).cols).toNat =
      Walk.rounds start goal := by
    simp only [Walk.between, Walk.rounds]
    omega
  rw [walkedCells, hfuel]

/-- The loop ends with the cells of the walk if it has rounds enough, and is unfinished if it has
fewer; it never overflows. -/
theorem checkedWalkedCells_eq (hne : start ≠ goal) (hstart : start.Moderate)
    (hgoal : goal.Moderate) (rounds : Nat) :
    checkedWalkedCells rounds start goal =
      if Walk.rounds start goal ≤ rounds then .ok (walkedCells start goal)
      else .error .unfinished := by
  rw [checkedWalkedCells_of_moderate hstart hgoal,
    Walk.checkedCellsFrom_eq (Walk.bounded_between hstart hgoal) rounds
      (Walk.roomy_between hstart hgoal) (Walk.underway_between hne), walkedCells_eq_rounds]
  split_ifs <;> rfl

/-- A walk has as many rounds there as back. -/
theorem Walk.rounds_comm (start goal : Cell) : rounds start goal = rounds goal start := by
  unfold rounds
  omega

/-- The line is read off the loop, whichever end it starts from. -/
theorem checkedLineCells_eq (hne : start ≠ goal) (hstart : start.Moderate) (hgoal : goal.Moderate)
    (rounds : Nat) :
    checkedLineCells rounds start goal =
      if Walk.rounds start goal ≤ rounds then .ok (lineCells start goal)
      else .error .unfinished := by
  unfold checkedLineCells lineCells
  rw [if_neg hne, if_neg hne]
  by_cases hlt : goal < start
  · rw [if_pos hlt, if_pos hlt, checkedWalkedCells_eq hne.symm hgoal hstart,
      Walk.rounds_comm goal start]
    split_ifs <;> rfl
  · rw [if_neg hlt, if_neg hlt, checkedWalkedCells_eq hne hstart hgoal]
    split_ifs <;> rfl

/-- In the rounds that the longer axis gives, a walk comes to its cells or to an overflow. -/
theorem checkedWalkedCells_refines (hne : start ≠ goal) {S : Prop}
    (hS : S → start.Moderate ∧ goal.Moderate) :
    (checkedWalkedCells (Walk.rounds start goal) start goal).Refines (walkedCells start goal) S := by
  constructor
  · intro cells h
    unfold checkedWalkedCells at h
    obtain ⟨w, hw, hfit⟩ := of_bind_eq_ok h
    obtain rfl := (Walk.checkedBetween_refines False.elim).agrees w hw
    obtain ⟨drift, hdrift, hloop⟩ := of_bind_eq_ok hfit
    obtain rfl := (fit_refines False.elim).agrees drift hdrift
    obtain ⟨rest, hrest, hcells⟩ := of_bind_eq_ok hloop
    rw [walkedCells_eq_rounds,
      ← Walk.eq_of_checkedCellsFrom_eq_ok (Walk.underway_between hne) hrest]
    exact (Except.ok.inj hcells).symm
  · intro hs
    rw [checkedWalkedCells_eq hne (hS hs).1 (hS hs).2, if_pos le_rfl]

/-- So does a line. -/
theorem checkedLineCells_refines (start goal : Cell) {S : Prop}
    (hS : S → start.Moderate ∧ goal.Moderate) :
    (checkedLineCells (Walk.rounds start goal) start goal).Refines (lineCells start goal) S := by
  unfold checkedLineCells lineCells
  refine .ite (fun _ => .of_ok [] S) fun hne => ?_
  by_cases hlt : goal < start
  · rw [if_pos hlt, if_pos hlt, Walk.rounds_comm]
    exact ((checkedWalkedCells_refines (Ne.symm hne) fun hs => (hS hs).symm).map
      List.reverse).map (List.filter (· != start))
  · rw [if_neg hlt, if_neg hlt]
    exact (checkedWalkedCells_refines hne hS).map (List.filter (· != start))

/-- Between two cells of moderate size the loop ends after exactly as many rounds as the longer axis
has steps, no number leaves the 32-bit range on the way, and what it comes to is the exact cover of
the segment between the two centres. -/
theorem line_fits_and_supercovers (hne : start ≠ goal) (hstart : start.Moderate)
    (hgoal : goal.Moderate) :
    (∀ rounds, checkedLineCells rounds start goal =
      if max (goal.row - start.row).natAbs (goal.col - start.col).natAbs ≤ rounds then
        .ok (lineCells start goal)
      else .error .unfinished) ∧
    Supercovers (lineCells start goal) start goal :=
  ⟨checkedLineCells_eq hne hstart hgoal, supercovers_lineCells hne⟩

/-- A steep line that is walked from its other end takes seven rounds and has thirteen cells. -/
theorem line_fits_and_supercovers_example :
    checkedLineCells 6 ⟨5, -2⟩ ⟨-2, 1⟩ = .error .unfinished ∧
      checkedLineCells 7 ⟨5, -2⟩ ⟨-2, 1⟩ = .ok (lineCells ⟨5, -2⟩ ⟨-2, 1⟩) ∧
      (lineCells ⟨5, -2⟩ ⟨-2, 1⟩).length = 13 := by
  have hne : (⟨5, -2⟩ : Cell) ≠ ⟨-2, 1⟩ := by decide
  obtain ⟨hrounds, hcells⟩ := line_fits_and_supercovers hne (by decide) (by decide)
  exact ⟨hrounds 6, hrounds 7, hcells.length_eq⟩

end Reticle
