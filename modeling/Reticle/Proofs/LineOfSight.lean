import Mathlib.Tactic.NormNum
import Reticle.Proofs.BoardRuns
import Reticle.Proofs.Clipping
import Reticle.Proofs.Tracing

/-!
# Line of sight is geometric

A path is barred exactly by the obstacles whose closed squares have more than one point in common
with the straight segment from the actor to the target. The clip decides that for one cell; what is
left to show is that looking at the walked cells only misses none of them, which holds even of the
cells that the segment touches in one point (`mem_lineCells_of_touches`).
-/

namespace Reticle

/-! ## Touched cells are near -/

/-- Along one axis: how many units a touched cell is short of the goal. -/
theorem short_of_touches {start goal middle : Int} {t : ℝ} (h0 : 0 ≤ t) (h1 : t ≤ 1)
    (h : |start + t * (goal - start) - middle| ≤ 1 / 2) {step short : Int}
    (hstep : step = if start < goal then 1 else -1) (hshort : short = (goal - middle) * step) :
    0 ≤ short ∧ short ≤ (goal - start).natAbs ∧
      |(short : ℝ) - (1 - t) * ((goal - start).natAbs : Int)| ≤ 1 / 2 := by
  have hdist : |(short : ℝ) - (1 - t) * ((goal - start).natAbs : Int)| ≤ 1 / 2 := by
    rw [hshort, hstep]
    split_ifs with hlt
    · rw [Int.natAbs_of_nonneg (by omega)]
      push_cast
      convert h using 2
      ring
    · rw [Int.ofNat_natAbs_of_nonpos (by omega)]
      push_cast
      rw [← abs_neg]
      convert h using 2
      ring
  obtain ⟨hge, hle⟩ := abs_le.mp hdist
  have hn : (0 : ℝ) ≤ ((goal - start).natAbs : Int) := by positivity
  have hlow : 0 ≤ (1 - t) * ((goal - start).natAbs : Int) := mul_nonneg (by linarith) hn
  have hhigh : (1 - t) * ((goal - start).natAbs : Int) ≤ ((goal - start).natAbs : Int) :=
    mul_le_of_le_one_left hn (by linarith)
  -- A whole number within half a unit of the range lies in it.
  refine ⟨?_, ?_, hdist⟩
  · have hpos : (-1 : ℝ) < short := by linarith
    have : -1 < short := by exact_mod_cast hpos
    omega
  · have hlt : (short : ℝ) < ((goal - start).natAbs : Int) + 1 := by linarith
    have : short < (goal - start).natAbs + 1 := by exact_mod_cast hlt
    omega

/-- Being within half a unit of the line along both axes bounds the lead. -/
theorem Walk.lead_le_of_close {w : Walk} (hR : 0 ≤ w.rows) (hC : 0 ≤ w.cols) {cols rows : Int}
    {t : ℝ} (hcols : |(cols : ℝ) - t * w.cols| ≤ 1 / 2) (hrows : |(rows : ℝ) - t * w.rows| ≤ 1 / 2) :
    2 * w.lead cols rows ≤ w.cols + w.rows ∧ -(w.cols + w.rows) ≤ 2 * w.lead cols rows := by
  have hR' : (0 : ℝ) ≤ w.rows := by exact_mod_cast hR
  have hC' : (0 : ℝ) ≤ w.cols := by exact_mod_cast hC
  have hlead : (w.lead cols rows : ℝ) =
      w.rows * (cols - t * w.cols) - w.cols * (rows - t * w.rows) := by
    unfold lead
    push_cast
    ring
  obtain ⟨hcl, hcu⟩ := abs_le.mp hcols
  obtain ⟨hrl, hru⟩ := abs_le.mp hrows
  have h₁ := mul_le_mul_of_nonneg_left hcu hR'
  have h₂ := mul_le_mul_of_nonneg_left hcl hR'
  have h₃ := mul_le_mul_of_nonneg_left hru hC'
  have h₄ := mul_le_mul_of_nonneg_left hrl hC'
  constructor
  · have hle : (2 : ℝ) * w.lead cols rows ≤ w.cols + w.rows := by rw [hlead]; linarith
    exact_mod_cast hle
  · have hge : -((w.cols : ℝ) + w.rows) ≤ 2 * w.lead cols rows := by rw [hlead]; linarith
    exact_mod_cast hge

/-- A cell that the segment touches is named by a near position of the walk. -/
theorem near_of_touches {c start goal : Cell} (h : (sharedPoints c start goal).Nonempty) :
    ∃ cols rows, (Walk.between start goal).Near cols rows ∧
      (Walk.between start goal).before cols rows = c := by
  obtain ⟨p, hp⟩ := h
  obtain ⟨t, h0, h1, hrow, hcol⟩ := exists_parameter_of_mem_sharedPoints hp
  obtain ⟨hr0, hr1, hrows⟩ := short_of_touches h0 h1 hrow rfl rfl
  obtain ⟨hc0, hc1, hcols⟩ := short_of_touches h0 h1 hcol rfl rfl
  obtain ⟨hle, hge⟩ := Walk.lead_le_of_close (w := Walk.between start goal)
    (Int.natCast_nonneg _) (Int.natCast_nonneg _) hcols hrows
  refine ⟨_, _, ⟨hc0, hc1, hr0, hr1, hle, hge⟩, ?_⟩
  obtain ⟨row, col⟩ := c
  simp only [Walk.before, Walk.between, Cell.mk.injEq]
  constructor <;> split_ifs <;> ring

/-- Every cell that the segment touches is on the line, but for the one that it starts from. -/
theorem mem_lineCells_of_touches {c start goal : Cell} (hne : start ≠ goal) (hc : c ≠ start)
    (h : (sharedPoints c start goal).Nonempty) : c ∈ lineCells start goal := by
  rw [mem_lineCells]
  refine ⟨hne, hc, ?_⟩
  split_ifs
  · have hswap : (sharedPoints c goal start).Nonempty := by
      rwa [sharedPoints_comm]
    obtain ⟨cols, rows, hnear, rfl⟩ := near_of_touches hswap
    exact mem_walkedCells_of_near hne.symm hnear
  · obtain ⟨cols, rows, hnear, rfl⟩ := near_of_touches h
    exact mem_walkedCells_of_near hne hnear

/-! ## Paths -/

namespace Board

/-- The view is blocked by an obstacle that is on the line, is not the target and is crossed. -/
theorem pathClear_eq_false_iff {b : Board} {target : Cell} :
    b.pathClear target = false ↔ ∃ c ∈ lineCells b.grid.center target,
      c ≠ target ∧ c ∈ b.obstacles ∧ crosses c b.grid.center target = true := by
  unfold pathClear
  rw [List.all_eq_false]
  apply exists_congr
  intro c
  apply and_congr_right
  intro _
  simp [isBlocked_iff, and_assoc]

/-- On a board that is reached by changes, the path from the actor to a target is barred exactly
when the segment between them has more than one point in common with the closed square of an
obstacle other than the target. The cells that are looked at leave out none that the segment runs
through. -/
theorem pathClear_eq_false_iff_obstacle_on_segment (grid : Grid) (changes : List Change)
    (target : Cell) :
    (((empty grid).run changes).pathClear target = false ↔
      ∃ c ∈ ((empty grid).run changes).obstacles, c ≠ target ∧
        (segment ℝ grid.center.point target.point ∩ c.square).Nontrivial) ∧
    ∀ c, c ≠ grid.center → (segment ℝ grid.center.point target.point ∩ c.square).Nontrivial →
      c ∈ lineCells grid.center target := by
  have hline : ∀ c, c ≠ grid.center → (sharedPoints c grid.center target).Nontrivial →
      grid.center ≠ target ∧ c ∈ lineCells grid.center target := by
    intro c hc hcross
    have hne : grid.center ≠ target := by
      rintro rfl
      exact not_nontrivial_sharedPoints_self _ _ hcross
    exact ⟨hne, mem_lineCells_of_touches hne hc hcross.nonempty⟩
  refine ⟨?_, fun c hc hcross => (hline c hc hcross).2⟩
  rw [pathClear_eq_false_iff, grid_run]
  constructor
  · rintro ⟨c, hc, hct, hmem, hcross⟩
    exact ⟨c, hmem, hct, (crosses_iff_nontrivial (mem_lineCells.mp hc).1).mp hcross⟩
  · rintro ⟨c, hmem, hct, hcross⟩
    have hacc := accepts_iff.mp (legal_run grid changes c hmem)
    rw [grid_run] at hacc
    obtain ⟨hne, hc⟩ := hline c hacc.2 hcross
    exact ⟨c, hc, hct, hmem, (crosses_iff_nontrivial hne).mpr hcross⟩

end Board

end Reticle
