import Mathlib.Analysis.Convex.Segment
import Mathlib.Data.Rat.Cast.Order
import Mathlib.Data.Real.Basic
import Mathlib.Order.Interval.Set.Basic
import Mathlib.Tactic.Linarith
import Mathlib.Tactic.Positivity
import Reticle.Plane.Crossing

/-!
# Clipping decides real intersection

`crosses` clips the parameters of a segment, in rational arithmetic. Here the same parameters are
read as real numbers: what is left after the four clips is exactly the set of the parameters whose
points lie in the closed square (`parameters_stretchInside`), so two ends that differ are told
apart from a single touching point (`crosses_iff_nontrivial`).
-/

namespace Reticle

/-! ## Cells in the real plane -/

/-- The centre of a cell. -/
def Cell.point (c : Cell) : ℝ × ℝ :=
  (c.row, c.col)

/-- The closed unit square around the centre of a cell. -/
def Cell.square (c : Cell) : Set (ℝ × ℝ) :=
  {p | |p.1 - c.row| ≤ 1 / 2 ∧ |p.2 - c.col| ≤ 1 / 2}

/-- Different cells have different centres in the plane. -/
theorem Cell.point_injective : Function.Injective Cell.point := by
  rintro ⟨r, c⟩ ⟨r', c'⟩ h
  simp only [Cell.point, Prod.mk.injEq, Int.cast_inj] at h
  rw [h.1, h.2]

/-- The points that the segment between two cell centres shares with the square of a third. -/
def sharedPoints (cell start goal : Cell) : Set (ℝ × ℝ) :=
  segment ℝ start.point goal.point ∩ cell.square

/-! ## Stretches as sets of parameters -/

namespace Stretch

/-- The real parameters in a stretch, if there is one. -/
def parameters : Option Stretch → Set ℝ
  | some s => Set.Icc (s.enter : ℝ) s.leave
  | none => ∅

/-- Nothing is left of a segment that was cut away. -/
@[simp] theorem parameters_none : parameters none = ∅ := rfl

/-- A stretch holds its two ends and what lies between. -/
theorem mem_parameters_some {s : Stretch} {t : ℝ} :
    t ∈ parameters (some s) ↔ (s.enter : ℝ) ≤ t ∧ t ≤ s.leave := Iff.rfl

/-- Before it is cut, a segment runs from zero to one. -/
theorem parameters_whole : parameters (some whole) = Set.Icc 0 1 := by
  simp [parameters, whole]

/-- A clip keeps exactly the parameters that satisfy its inequality. -/
theorem parameters_clip (s : Stretch) (p q : ℚ) :
    parameters (s.clip p q) = parameters (some s) ∩ {t | (p : ℝ) * t ≤ q} := by
  ext t
  rw [Set.mem_inter_iff, mem_parameters_some, Set.mem_ofPred_eq]
  unfold clip
  rw [← max_def, ← min_def]
  rcases lt_trichotomy p 0 with hp | rfl | hp
  · have hp' : (p : ℝ) < 0 := by exact_mod_cast hp
    -- Dividing by a negative number turns the inequality: the clip moves the start.
    have hineq : (p : ℝ) * t ≤ q ↔ ((q / p : ℚ) : ℝ) ≤ t := by
      rw [Rat.cast_div, div_le_iff_of_neg hp', mul_comm]
    rw [if_neg hp.ne, if_pos hp, hineq]
    split_ifs with hlt
    · have hlt' : (s.leave : ℝ) < (q / p : ℚ) := by exact_mod_cast hlt
      refine ⟨False.elim, fun h => ?_⟩
      linarith [h.1.2, h.2]
    · rw [mem_parameters_some, Rat.cast_max, max_le_iff]
      tauto
  · rw [if_pos rfl, Rat.cast_zero, zero_mul, Rat.cast_nonneg]
    split_ifs with hq
    · exact ⟨False.elim, fun h => absurd hq (not_lt.mpr h.2)⟩
    · rw [mem_parameters_some, and_iff_left (not_lt.mp hq)]
  · have hp' : (0 : ℝ) < p := by exact_mod_cast hp
    -- Here the clip moves the end.
    have hineq : (p : ℝ) * t ≤ q ↔ t ≤ ((q / p : ℚ) : ℝ) := by
      rw [Rat.cast_div, le_div_iff₀ hp', mul_comm]
    rw [if_neg hp.ne', if_neg hp.le.not_gt, hineq]
    split_ifs with hlt
    · have hlt' : ((q / p : ℚ) : ℝ) < s.enter := by exact_mod_cast hlt
      refine ⟨False.elim, fun h => ?_⟩
      linarith [h.1.1, h.2]
    · rw [mem_parameters_some, Rat.cast_min, le_min_iff]
      tauto

/-- Clips that keep the parameters of a set do so one after the other. -/
theorem parameters_bind {f : Stretch → Option Stretch} {A : Set ℝ}
    (hf : ∀ s, parameters (f s) = parameters (some s) ∩ A) (o : Option Stretch) :
    parameters (o.bind f) = parameters o ∩ A := by
  cases o with
  | none => simp
  | some s => exact hf s

/-- Two opposite clips keep a coordinate within half a unit of the middle. -/
theorem parameters_clipAxis (s : Stretch) (start delta middle : ℚ) :
    parameters (s.clipAxis start delta middle) =
      parameters (some s) ∩ {t | |(start : ℝ) + t * delta - middle| ≤ 1 / 2} := by
  unfold clipAxis
  rw [parameters_bind (fun s => parameters_clip s _ _), parameters_clip, Set.inter_assoc]
  congr 1
  ext t
  rw [Set.mem_inter_iff, Set.mem_ofPred_eq, Set.mem_ofPred_eq, Set.mem_ofPred_eq, abs_le]
  push_cast
  constructor
  · rintro ⟨h₁, h₂⟩
    constructor <;> linarith
  · rintro ⟨h₁, h₂⟩
    constructor <;> linarith

end Stretch

/-! ## Segments and squares -/

/-- The point of a segment at a parameter. -/
def pointAt (start goal : Cell) (t : ℝ) : ℝ × ℝ :=
  start.point + t • (goal.point - start.point)

/-- The points of a segment, in coordinates. -/
theorem pointAt_eq (start goal : Cell) (t : ℝ) :
    pointAt start goal t =
      (start.row + t * (goal.row - start.row), start.col + t * (goal.col - start.col)) := rfl

/-- A segment between different cells passes no point twice. -/
theorem pointAt_injective {start goal : Cell} (h : start ≠ goal) :
    Function.Injective (pointAt start goal) := by
  intro t u htu
  have hne : goal.point - start.point ≠ 0 := fun h0 =>
    h (Cell.point_injective (sub_eq_zero.mp h0).symm)
  exact smul_left_injective ℝ hne (add_left_cancel htu)

/-- After the four clips exactly the parameters are left whose points lie in the square. -/
theorem parameters_stretchInside (cell start goal : Cell) :
    Stretch.parameters (stretchInside cell start goal) =
      Set.Icc 0 1 ∩ Set.preimage (pointAt start goal) cell.square := by
  unfold stretchInside
  rw [Stretch.parameters_bind (fun s => Stretch.parameters_clipAxis s _ _ _),
    Stretch.parameters_clipAxis, Stretch.parameters_whole, Set.inter_assoc]
  congr 1
  ext t
  simp only [Set.mem_inter_iff, Set.mem_ofPred_eq, Set.mem_preimage, Cell.square, pointAt_eq]
  push_cast
  exact and_comm

/-- The points a square shares with a segment are those at the parameters of the stretch that the
clip leaves. -/
theorem sharedPoints_eq_image (cell start goal : Cell) :
    sharedPoints cell start goal =
      pointAt start goal '' Stretch.parameters (stretchInside cell start goal) := by
  rw [parameters_stretchInside, Set.image_inter_preimage, sharedPoints, segment_eq_image']
  rfl

/-- A segment is the same from either end. -/
theorem sharedPoints_comm (cell start goal : Cell) :
    sharedPoints cell goal start = sharedPoints cell start goal := by
  rw [sharedPoints, segment_symm, sharedPoints]

/-- A point that the segment shares with the square, at its parameter. -/
theorem exists_parameter_of_mem_sharedPoints {cell start goal : Cell} {p : ℝ × ℝ}
    (h : p ∈ sharedPoints cell start goal) :
    ∃ t : ℝ, 0 ≤ t ∧ t ≤ 1 ∧ |start.row + t * (goal.row - start.row) - cell.row| ≤ 1 / 2 ∧
      |start.col + t * (goal.col - start.col) - cell.col| ≤ 1 / 2 := by
  rw [sharedPoints_eq_image, parameters_stretchInside] at h
  obtain ⟨t, ⟨⟨h0, h1⟩, hrow, hcol⟩, -⟩ := h
  exact ⟨t, h0, h1, hrow, hcol⟩

/-- A segment of no length shares at most one point with any square. -/
theorem not_nontrivial_sharedPoints_self (cell start : Cell) :
    ¬ (sharedPoints cell start start).Nontrivial := by
  unfold sharedPoints
  rw [segment_same]
  exact fun h => Set.not_nontrivial_singleton (h.mono Set.inter_subset_left)

/-- A segment crosses a cell when it has more than one point in common with the closed square. -/
theorem crosses_iff_nontrivial {cell start goal : Cell} (h : start ≠ goal) :
    crosses cell start goal = true ↔ (sharedPoints cell start goal).Nontrivial := by
  rw [sharedPoints_eq_image, Set.image_nontrivial (pointAt_injective h)]
  unfold crosses
  rw [if_neg h]
  rcases stretchInside cell start goal with _ | s
  · simp [Set.not_nontrivial_empty]
  · rw [Stretch.parameters, ← Set.not_subsingleton_iff, Set.subsingleton_Icc_iff, not_le,
      decide_eq_true_eq, Rat.cast_lt]

/-- It does not matter from which end a segment is clipped. -/
theorem crosses_comm (cell start goal : Cell) :
    crosses cell goal start = crosses cell start goal := by
  by_cases h : start = goal
  · rw [h]
  · rw [Bool.eq_iff_iff, crosses_iff_nontrivial h, crosses_iff_nontrivial (Ne.symm h),
      sharedPoints_comm]

end Reticle
