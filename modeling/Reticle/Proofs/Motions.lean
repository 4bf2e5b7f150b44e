import Reticle.Proofs.Sightlines

/-!
# Motions of the cells

A motion takes cells to cells, one to one, and keeps the distances between their centres:
translations, quarter turns and reflections are motions. The square of a cell is where no other
centre is nearer than the cell's own (`Cell.mem_square_iff`), and how far a point of a segment is
from a centre follows from the distances between centres (`Cell.squaredTo_pointAt`). So a motion
keeps which points of a segment lie in a square, and with them all that is decided by segments and
squares (`Motion.crosses_eq`, `Motion.bars_iff`).
-/

namespace Reticle

/-! ## Distances -/

namespace Cell

/-- The square of the distance between the centres of two cells. -/
def squaredApart (a b : Cell) : Int :=
  (a.row - b.row) ^ 2 + (a.col - b.col) ^ 2

/-- The square of the distance from the centre of a cell to a point. -/
def squaredTo (c : Cell) (p : ℝ × ℝ) : ℝ :=
  (p.1 - c.row) ^ 2 + (p.2 - c.col) ^ 2

/-- A number within half a unit of a whole number is as far from any other. -/
theorem sq_sub_le_of_close {x : ℝ} {i : Int} (h : |x - i| ≤ 1 / 2) (j : Int) :
    (x - i) ^ 2 ≤ (x - j) ^ 2 := by
  have hwhole : |(j - i : ℝ)| ≤ (j - i) ^ 2 := by
    have hsq := Int.natAbs_le_self_sq (j - i)
    rw [← Int.abs_eq_natAbs] at hsq
    exact_mod_cast hsq
  have hshort : 2 * (j - i) * (x - i) ≤ |(j - i : ℝ)| :=
    calc 2 * (j - i) * (x - i) ≤ |2 * (j - i) * (x - i)| := le_abs_self _
      _ = |(j - i : ℝ)| * (2 * |x - i|) := by
        rw [abs_mul, abs_mul, abs_two]
        ring
      _ ≤ |(j - i : ℝ)| * 1 := mul_le_mul_of_nonneg_left (by linarith) (abs_nonneg _)
      _ = |(j - i : ℝ)| := mul_one _
  have hexpand : (x - j) ^ 2 = (x - i) ^ 2 + ((j - i) ^ 2 - 2 * (j - i) * (x - i)) := by ring
  linarith

/-- The square of a cell is where no centre is nearer than the cell's own. -/
theorem mem_square_iff {c : Cell} {p : ℝ × ℝ} :
    p ∈ c.square ↔ ∀ n : Cell, c.squaredTo p ≤ n.squaredTo p := by
  constructor
  · rintro ⟨hrow, hcol⟩ n
    exact add_le_add (sq_sub_le_of_close hrow n.row) (sq_sub_le_of_close hcol n.col)
  · -- The centres of the four neighbours are enough.
    intro h
    have hnorth := h ⟨c.row - 1, c.col⟩
    have hsouth := h ⟨c.row + 1, c.col⟩
    have hwest := h ⟨c.row, c.col - 1⟩
    have heast := h ⟨c.row, c.col + 1⟩
    simp only [squaredTo] at hnorth hsouth hwest heast
    push_cast at hnorth hsouth hwest heast
    constructor <;> rw [abs_le] <;> constructor <;> linarith

/-- The mirror image of a cell in the line that runs through another cell along a direction: what
the displacement has along the line is kept, and what it has across is reversed. -/
def mirror (c : Cell) (axis : Direction) (through : Cell) : Cell :=
  let dRow := c.row - through.row
  let dCol := c.col - through.col
  -- Twice the projection, in steps of the direction.
  let along := (3 - axis.lengthSquared) * axis.dot dRow dCol
  through.shift (axis.row * along - dRow) (axis.col * along - dCol)

/-- A mirror image is mirrored back. -/
theorem mirror_mirror (c : Cell) (axis : Direction) (through : Cell) :
    (c.mirror axis through).mirror axis through = c := by
  obtain ⟨row, col⟩ := c
  cases axis <;>
    simp only [mirror, shift, Direction.dot, Direction.lengthSquared, Direction.row, Direction.col,
      mk.injEq] <;>
    omega

/-- How far a point of a segment is from a centre, by the distances between centres. -/
theorem squaredTo_pointAt (n start goal : Cell) (t : ℝ) :
    n.squaredTo (pointAt start goal t) = (1 - t) * start.squaredApart n +
      t * goal.squaredApart n - t * (1 - t) * start.squaredApart goal := by
  simp only [squaredTo, squaredApart, pointAt_eq]
  push_cast
  ring

end Cell

/-! ## Motions -/

/-- A map of the cells onto the cells that keeps the distances between their centres. -/
structure Motion extends Cell ≃ Cell where
  squaredApart_eq : ∀ a b, (toFun a).squaredApart (toFun b) = a.squaredApart b

namespace Motion

instance : CoeFun Motion fun _ => Cell → Cell := ⟨fun m => m.toEquiv⟩

/-- Every cell is displaced by the same rows and columns. -/
def translation (dRow dCol : Int) : Motion where
  toFun c := c.shift dRow dCol
  invFun c := c.shift (-dRow) (-dCol)
  left_inv c := by simp [Cell.shift]
  right_inv c := by simp [Cell.shift]
  squaredApart_eq a b := by
    simp only [Cell.shift, Cell.squaredApart]
    ring

/-- The quarter turn about a cell that takes up to the left. -/
def quarterTurn (about : Cell) : Motion where
  toFun c := ⟨about.row - (c.col - about.col), about.col + (c.row - about.row)⟩
  invFun c := ⟨about.row + (c.col - about.col), about.col - (c.row - about.row)⟩
  left_inv c := by simp
  right_inv c := by simp
  squaredApart_eq a b := by
    simp only [Cell.squaredApart]
    ring

/-- The reflection in the line that runs through a cell along a direction. -/
def reflection (axis : Direction) (through : Cell) : Motion where
  toFun c := c.mirror axis through
  invFun c := c.mirror axis through
  left_inv c := c.mirror_mirror axis through
  right_inv c := c.mirror_mirror axis through
  squaredApart_eq a b := by
    cases axis <;>
      simp only [Cell.squaredApart, Cell.mirror, Cell.shift, Direction.dot, Direction.lengthSquared,
        Direction.row, Direction.col] <;>
      ring

variable (m : Motion) {c start goal : Cell}

/-- A motion keeps different cells apart. -/
theorem injective : Function.Injective m :=
  m.toEquiv.injective

/-- A motion keeps the distances of cells from the points of a segment. -/
theorem squaredTo_pointAt (n start goal : Cell) (t : ℝ) :
    (m n).squaredTo (pointAt (m start) (m goal) t) = n.squaredTo (pointAt start goal t) := by
  have hkeeps : ∀ a b, (m a).squaredApart (m b) = a.squaredApart b := m.squaredApart_eq
  rw [Cell.squaredTo_pointAt, Cell.squaredTo_pointAt, hkeeps, hkeeps, hkeeps]

/-- A motion keeps which points of a segment lie in a square. -/
theorem pointAt_mem_square_iff {t : ℝ} :
    pointAt (m start) (m goal) t ∈ (m c).square ↔ pointAt start goal t ∈ c.square := by
  rw [Cell.mem_square_iff, Cell.mem_square_iff, m.toEquiv.surjective.forall]
  simp only [m.squaredTo_pointAt]

/-- A motion keeps which squares a segment runs through. -/
theorem nontrivial_sharedPoints_iff (hne : start ≠ goal) :
    (sharedPoints (m c) (m start) (m goal)).Nontrivial ↔
      (sharedPoints c start goal).Nontrivial := by
  rw [Reticle.nontrivial_sharedPoints_iff hne,
    Reticle.nontrivial_sharedPoints_iff (m.injective.ne hne)]
  simp only [m.pointAt_mem_square_iff]

/-- A motion keeps which cells bar which paths. -/
theorem bars_iff : Bars (m c) (m start) (m goal) ↔ Bars c start goal := by
  constructor
  · intro h
    have hne : start ≠ goal := ne_of_apply_ne m h.start_ne_goal
    exact ⟨ne_of_apply_ne m h.ne_start, ne_of_apply_ne m h.ne_goal,
      (m.nontrivial_sharedPoints_iff hne).1 h.crosses⟩
  · intro h
    exact ⟨m.injective.ne h.ne_start, m.injective.ne h.ne_goal,
      (m.nontrivial_sharedPoints_iff h.start_ne_goal).2 h.crosses⟩

/-- A motion keeps which cells a segment crosses. -/
theorem crosses_eq (c start goal : Cell) :
    crosses (m c) (m start) (m goal) = crosses c start goal := by
  by_cases hne : start = goal
  · subst hne
    unfold crosses
    rw [if_pos rfl, if_pos rfl]
    exact decide_eq_decide.2 m.injective.eq_iff
  · rw [Bool.eq_iff_iff, crosses_iff_nontrivial hne, crosses_iff_nontrivial (m.injective.ne hne)]
    exact m.nontrivial_sharedPoints_iff hne

end Motion

end Reticle
