import Reticle.Proofs.LineOfSight

/-!
# What bars a path

An obstacle bars the straight path to a target when the segment runs through its square and it is
neither where the path starts nor where it ends (`Board.pathClear_iff`). So a path depends on the
obstacles that can bar it only, and more obstacles bar more paths. A segment along one of the eight
directions merely touches the corners of the cells beside it: only the cells that it steps on can
bar it (`Bars.exists_step`).
-/

namespace Reticle

/-- An obstacle on the cell bars the straight path from `start` to `goal`. -/
structure Bars (c start goal : Cell) : Prop where
  ne_start : c ≠ start
  ne_goal : c ≠ goal
  crosses : (sharedPoints c start goal).Nontrivial

/-- Nothing bars a cell from itself. -/
theorem Bars.start_ne_goal {c start goal : Cell} (h : Bars c start goal) : start ≠ goal := by
  rintro rfl
  exact not_nontrivial_sharedPoints_self _ _ h.crosses

/-- More than one point is shared when two parameters lead into the square. -/
theorem nontrivial_sharedPoints_iff {c start goal : Cell} (hne : start ≠ goal) :
    (sharedPoints c start goal).Nontrivial ↔ ∃ t u : ℝ, 0 ≤ t ∧ t < u ∧ u ≤ 1 ∧
      pointAt start goal t ∈ c.square ∧ pointAt start goal u ∈ c.square := by
  rw [sharedPoints_eq_image, Set.image_nontrivial (pointAt_injective hne),
    parameters_stretchInside]
  constructor
  · intro h
    obtain ⟨t, ⟨ht, htc⟩, u, ⟨hu, huc⟩, htu⟩ := h.exists_lt
    exact ⟨t, u, ht.1, htu, hu.2, htc, huc⟩
  · rintro ⟨t, u, ht, htu, hu, htc, huc⟩
    exact ⟨t, ⟨⟨ht, htu.le.trans hu⟩, htc⟩, u, ⟨⟨ht.trans htu.le, hu⟩, huc⟩, htu.ne⟩

/-! ## Paths -/

namespace Board

variable {b b' : Board} {target : Cell}

/-- A path is clear when no obstacle bars it. -/
theorem pathClear_iff :
    b.pathClear target = true ↔ ∀ c ∈ b.obstacles, ¬ Bars c b.grid.center target := by
  rw [← not_iff_not, Bool.not_eq_true, pathClear_eq_false_iff]
  push Not
  constructor
  · rintro ⟨c, hc, hct, hmem, hcross⟩
    obtain ⟨hne, hcs, -⟩ := mem_lineCells.1 hc
    exact ⟨c, hmem, hcs, hct, (crosses_iff_nontrivial hne).1 hcross⟩
  · rintro ⟨c, hmem, hbars⟩
    have hne := hbars.start_ne_goal
    refine ⟨c, ?_, hbars.ne_goal, hmem, (crosses_iff_nontrivial hne).2 hbars.crosses⟩
    exact mem_lineCells_of_touches hne hbars.ne_start hbars.crosses.nonempty

/-- A path that is clear stays so when obstacles are taken away. -/
theorem pathClear_of_subset (hgrid : b.grid = b'.grid)
    (hsub : ∀ c ∈ b.obstacles, c ∈ b'.obstacles) (h : b'.pathClear target = true) :
    b.pathClear target = true := by
  rw [pathClear_iff] at h ⊢
  intro c hc
  rw [hgrid]
  exact h c (hsub c hc)

/-- Boards that agree on what can bar a path agree on the path. -/
theorem pathClear_congr (hgrid : b.grid = b'.grid)
    (h : ∀ c, Bars c b.grid.center target → (c ∈ b.obstacles ↔ c ∈ b'.obstacles)) :
    b.pathClear target = b'.pathClear target := by
  rw [Bool.eq_iff_iff, pathClear_iff, pathClear_iff, ← hgrid]
  constructor
  · intro hclear c hc hbars
    exact hclear c ((h c hbars).2 hc) hbars
  · intro hclear c hc hbars
    exact hclear c ((h c hbars).1 hc) hbars

end Board

/-! ## Rays -/

/-- Along one axis of a direction: two points near a middle are near the same number of steps. -/
theorem exists_steps_of_close {e i : Int} (he : e = -1 ∨ e = 0 ∨ e = 1) {x y : ℝ}
    (hx : |e * x - i| ≤ 1 / 2) (hy : |e * y - i| ≤ 1 / 2) :
    (e = 0 ∧ i = 0) ∨ ∃ n : Int, i = e * n ∧ n - 1 / 2 ≤ x ∧ y ≤ n + 1 / 2 := by
  rw [abs_le] at hx hy
  rcases he with rfl | rfl | rfl
  · refine .inr ⟨-i, by ring, ?_, ?_⟩
    · push_cast at hx ⊢
      linarith
    · push_cast at hy ⊢
      linarith
  · left
    refine ⟨rfl, ?_⟩
    push_cast at hx
    have hlow : (-1 : ℝ) < i := by linarith
    have hhigh : (i : ℝ) < 1 := by linarith
    have hlow' : -1 < i := by exact_mod_cast hlow
    have hhigh' : i < 1 := by exact_mod_cast hhigh
    omega
  · refine .inr ⟨i, by ring, ?_, ?_⟩
    · push_cast at hx
      linarith
    · push_cast at hy
      linarith

/-- The row of a direction is a unit step or none. -/
theorem Direction.row_cases (d : Direction) : d.row = -1 ∨ d.row = 0 ∨ d.row = 1 := by
  cases d <;> decide

/-- The column of a direction is a unit step or none. -/
theorem Direction.col_cases (d : Direction) : d.col = -1 ∨ d.col = 0 ∨ d.col = 1 := by
  cases d <;> decide

/-- A direction moves along one axis at least. -/
theorem Direction.row_or_col_ne_zero (d : Direction) : ¬ (d.row = 0 ∧ d.col = 0) := by
  cases d <;> decide

/-- A cell whose square has two points of a ray lies on it, near both. -/
theorem exists_step_of_close {c center : Cell} {d : Direction} {x y : ℝ} (hxy : x < y)
    (hx : (center.row + d.row * x, center.col + d.col * x) ∈ c.square)
    (hy : (center.row + d.row * y, center.col + d.col * y) ∈ c.square) :
    ∃ n : Int, c = center.step d n ∧ n - 1 / 2 ≤ x ∧ y ≤ n + 1 / 2 := by
  have hcenter : ∀ e x : ℝ, ∀ a b : Int, |(a : ℝ) + e * x - b| = |e * x - ((b - a : Int) : ℝ)| := by
    intro e x a b
    push_cast
    congr 1
    ring
  obtain ⟨hxr, hxc⟩ := hx
  obtain ⟨hyr, hyc⟩ := hy
  simp only [hcenter] at hxr hxc hyr hyc
  have hrows := exists_steps_of_close d.row_cases hxr hyr
  have hcols := exists_steps_of_close d.col_cases hxc hyc
  have hcell : ∀ n : Int, c.row - center.row = d.row * n → c.col - center.col = d.col * n →
      c = center.step d n := by
    intro n hr hc
    obtain ⟨row, col⟩ := c
    simp only [Cell.step, Cell.shift, Cell.mk.injEq]
    constructor <;> linarith
  rcases hrows with ⟨hr, hi⟩ | ⟨n, hi, hnx, hny⟩
  · rcases hcols with ⟨hc, -⟩ | ⟨n, hj, hnx, hny⟩
    · exact absurd ⟨hr, hc⟩ d.row_or_col_ne_zero
    · exact ⟨n, hcell n (by rw [hi, hr, zero_mul]) hj, hnx, hny⟩
  · rcases hcols with ⟨hc, hj⟩ | ⟨m, hj, hmx, hmy⟩
    · exact ⟨n, hcell n hi (by rw [hj, hc, zero_mul]), hnx, hny⟩
    · -- Both numbers of steps lie within half a step of one stretch of the ray.
      have hnm : (n : ℝ) < m + 1 := by linarith
      have hmn : (m : ℝ) < n + 1 := by linarith
      have hnm' : n < m + 1 := by exact_mod_cast hnm
      have hmn' : m < n + 1 := by exact_mod_cast hmn
      obtain rfl : n = m := by omega
      exact ⟨n, hcell n hi hj, hnx, hny⟩

/-- The path along a ray is barred by cells between its ends only, which lie on the ray. -/
theorem Bars.exists_step {c center : Cell} {d : Direction} {k : Int} (hk : 0 ≤ k)
    (h : Bars c center (center.step d k)) : ∃ n : Int, 1 ≤ n ∧ n < k ∧ c = center.step d n := by
  obtain ⟨t, u, ht, htu, hu, htc, huc⟩ := (nontrivial_sharedPoints_iff h.start_ne_goal).1 h.crosses
  have hpos : (0 : ℝ) < k := by
    have hne : k ≠ 0 := by
      rintro rfl
      refine h.start_ne_goal ?_
      simp [Cell.step, Cell.shift]
    have hlt : 0 < k := lt_of_le_of_ne hk hne.symm
    exact_mod_cast hlt
  have hpoint : ∀ v : ℝ, pointAt center (center.step d k) v =
      (center.row + d.row * (v * k), center.col + d.col * (v * k)) := by
    intro v
    rw [pointAt_eq]
    unfold Cell.step Cell.shift
    push_cast
    congr 1 <;> ring
  rw [hpoint] at htc huc
  -- Two points of the square on the ray leave it one whole step to contain.
  obtain ⟨n, rfl, hnt, hnu⟩ := exists_step_of_close (mul_lt_mul_of_pos_right htu hpos) htc huc
  have hnonneg : (0 : ℝ) ≤ t * k := mul_nonneg ht hpos.le
  have hle : u * k ≤ (k : ℝ) := mul_le_of_le_one_left hpos.le hu
  have hlow : (-1 : ℝ) < n := by linarith [mul_lt_mul_of_pos_right htu hpos]
  have hhigh : (n : ℝ) < k + 1 := by linarith [mul_lt_mul_of_pos_right htu hpos]
  have hlow' : -1 < n := by exact_mod_cast hlow
  have hhigh' : n < k + 1 := by exact_mod_cast hhigh
  have hne_zero : n ≠ 0 := by
    rintro rfl
    refine h.ne_start ?_
    simp [Cell.step, Cell.shift]
  have hne : n ≠ k := by
    rintro rfl
    exact h.ne_goal rfl
  exact ⟨n, by omega, by omega, rfl⟩

end Reticle
