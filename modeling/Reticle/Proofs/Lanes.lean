import Mathlib.Data.Rat.Floor
import Reticle.Area.Pattern
import Reticle.Scenario.Tile

/-!
# Lines from the actor

The cells that lie a number of steps along a direction are found in two ways. A walk goes step by
step, from the minimum rounded up to the maximum rounded down, and stops after twice the side of
the grid; a test takes a cell, asks for the direction it lies in and for its distance, and compares
the distance with the bounds as they are. On the grid both give the same cells (`mem_line_iff`),
provided some whole number lies within the bounds: a walk takes its first step whatever the maximum
is.
-/

namespace Reticle

/-! ## Rounding and comparing -/

namespace Number

/-- One is stored as one. -/
theorem exact_one : exact 1 = .finite 1 := by
  decide +kernel

namespace Extended

/-- Rounding up compares with a coordinate as the number itself does. -/
theorem ceil_le_iff {e : Extended} (he : e ≠ undefined) {n : Int} (hmin : coordinateMin ≤ n)
    (hmax : n < coordinateMax) : e.ceil ≤ n ↔ e.isAtMost n = true := by
  cases e with
  | undefined => exact absurd rfl he
  | bottom => simpa [ceil, isAtMost] using hmin
  | finite q =>
    have hq : q.ceil ≤ n ↔ q ≤ n := Rat.ceil_le_iff
    show clampCoordinate q.ceil ≤ n ↔ decide (q ≤ n) = true
    unfold clampCoordinate
    rw [decide_eq_true_iff, ← hq]
    omega
  | top => simpa [ceil, isAtMost] using hmax

/-- Rounding down compares with a coordinate as the number itself does. -/
theorem le_floor_iff {e : Extended} (he : e ≠ undefined) {n : Int} (hmin : coordinateMin < n)
    (hmax : n ≤ coordinateMax) : n ≤ e.floor ↔ e.isAtLeast n = true := by
  cases e with
  | undefined => exact absurd rfl he
  | bottom => simpa [floor, isAtLeast] using hmin
  | finite q =>
    have hq : n ≤ q.floor ↔ (n : Rat) ≤ q := Rat.le_floor_iff
    show n ≤ clampCoordinate q.floor ↔ decide ((n : Rat) ≤ q) = true
    unfold clampCoordinate
    rw [decide_eq_true_iff, ← hq]
    omega
  | top => simpa [floor, isAtLeast] using hmax

/-- What reaches a number reaches every smaller one. -/
theorem isAtLeast_of_le {e : Extended} {m n : Int} (h : e.isAtLeast n = true) (hmn : m ≤ n) :
    e.isAtLeast m = true := by
  cases e with
  | undefined => exact h
  | bottom => exact h
  | finite q =>
    have hn : (n : Rat) ≤ q := of_decide_eq_true h
    have hm : (m : Rat) ≤ n := Rat.intCast_le_intCast.2 hmn
    exact decide_eq_true (hm.trans hn)
  | top => rfl

/-- A number between two others puts them in order. -/
theorem le_of_between {e : Extended} {m n : Int} (hm : e.isAtLeast m = true)
    (hn : e.isAtMost n = true) : m ≤ n := by
  cases e with
  | undefined => exact absurd hm Bool.false_ne_true
  | bottom => exact absurd hm Bool.false_ne_true
  | top => exact absurd hn Bool.false_ne_true
  | finite q =>
    have hmq : (m : Rat) ≤ q := of_decide_eq_true hm
    have hqn : q ≤ n := of_decide_eq_true hn
    exact Rat.intCast_le_intCast.1 (hmq.trans hqn)

/-- Nothing that is at least a whole number is below something that is at most that number. -/
theorem not_isBelow_of_between {e f : Extended} {n : Int} (he : e.isAtLeast n = true)
    (hf : f.isAtMost n = true) : e.isBelow f = false := by
  cases e with
  | undefined => exact absurd he Bool.false_ne_true
  | bottom => exact absurd he Bool.false_ne_true
  | top => cases f <;> rfl
  | finite q =>
    cases f with
    | undefined => rfl
    | bottom => rfl
    | top => exact absurd hf Bool.false_ne_true
    | finite p =>
      have hq : (n : Rat) ≤ q := of_decide_eq_true he
      have hp : p ≤ n := of_decide_eq_true hf
      exact decide_eq_false (not_lt.2 (hp.trans hq))

end Extended

/-- The first of two numbers is the larger one when a whole number lies between them. -/
theorem larger_eq_left {x y : Float} {n : Int} (hx : (exact x).isAtLeast n = true)
    (hy : (exact y).isAtMost n = true) : larger x y = x := by
  unfold larger
  refine if_neg ?_
  rintro (hundefined | hbelow)
  · rw [hundefined] at hx
    exact Bool.false_ne_true hx
  · rw [Extended.not_isBelow_of_between hx hy] at hbelow
    exact Bool.false_ne_true hbelow

end Number

/-! ## Directions -/

namespace Direction

/-- Steps in a direction lead in that direction. -/
theorem toward_mul (d : Direction) {k : Int} (hk : 0 < k) :
    toward (d.row * k) (d.col * k) = some d := by
  unfold toward
  rw [Int.sign_mul, Int.sign_mul, Int.sign_eq_one_of_pos hk, mul_one, mul_one]
  cases d <;> rfl

/-- The direction of a displacement is made of the signs of its two parts. -/
theorem sign_of_toward {d : Direction} {dRow dCol : Int} (h : toward dRow dCol = some d) :
    d.row = dRow.sign ∧ d.col = dCol.sign := by
  simpa using List.find?_some h

end Direction

namespace Cell

/-- No step leads nowhere. -/
theorem step_zero (c : Cell) (d : Direction) : c.step d 0 = c := by
  unfold step shift
  simp

/-- From a cell to one further along a direction, that is the direction. -/
theorem directionTo_step (c : Cell) (d : Direction) {k : Int} (hk : 0 < k) :
    c.directionTo (c.step d k) = some d := by
  unfold directionTo step shift
  simp only [add_sub_cancel_left]
  exact d.toward_mul hk

/-- Every step adds one to the distance in king moves. -/
theorem chebyshev_step (c : Cell) (d : Direction) {k : Int} (hk : 0 ≤ k) :
    (c.step d k).chebyshev c = k := by
  unfold chebyshev step shift
  cases d <;> simp [Direction.row, Direction.col] <;> omega

/-- Steps in a direction keep the row, the column, or on the diagonals the equal distance in both.
-/
theorem step_on_line (c : Cell) (d : Direction) (k : Int) :
    (c.step d k).row - c.row = 0 ∨ (c.step d k).col - c.col = 0 ∨
      ((c.step d k).row - c.row).natAbs = ((c.step d k).col - c.col).natAbs := by
  unfold step shift
  cases d <;> simp [Direction.row, Direction.col]

/-- There is no direction from a cell to itself. -/
theorem directionTo_self (c : Cell) : c.directionTo c = none := by
  unfold directionTo
  rw [Int.sub_self, Int.sub_self]
  rfl

/-- A cell on the same row, column or diagonal lies as many steps away as its distance says. -/
theorem eq_step_of_directionTo {c e : Cell} {d : Direction} (h : c.directionTo e = some d)
    (hline : e.row - c.row = 0 ∨ e.col - c.col = 0 ∨
      (e.row - c.row).natAbs = (e.col - c.col).natAbs) :
    e = c.step d (e.chebyshev c) := by
  obtain ⟨hrow, hcol⟩ := Direction.sign_of_toward h
  have hsign : ∀ x : Int, (x = 0 ∨ (x.natAbs : Int) = e.chebyshev c) →
      x.sign * e.chebyshev c = x := by
    rintro x (rfl | hx)
    · rw [Int.sign_zero, zero_mul]
    · rw [← hx]
      exact Int.sign_mul_natAbs x
  have hrows : (e.row - c.row).sign * e.chebyshev c = e.row - c.row := by
    refine hsign _ ?_
    unfold chebyshev
    omega
  have hcols : (e.col - c.col).sign * e.chebyshev c = e.col - c.col := by
    refine hsign _ ?_
    unfold chebyshev
    omega
  unfold step shift
  rw [hrow, hcol, hrows, hcols, add_sub_cancel, add_sub_cancel]

end Cell

/-! ## Bounds with a step in them -/

/-- Steps are not taken backwards, whatever the bounds. -/
theorem Steps.nonneg_of_mem_atMost {b : Bounds} {limit n : Int} (hlimit : 0 ≤ limit)
    (hn : n ∈ ((Steps.ofBounds b).atMost limit).toList) : 0 ≤ n := by
  have hfirst := (mem_wholeNumbers.1 hn).1
  unfold Steps.atMost Steps.ofBounds at hfirst
  simp only at hfirst
  omega

/-- The bounds are at least one, and some whole number lies within them. -/
structure Bounds.HasStep (b : Bounds) : Prop where
  one_le : (Number.exact b.min).isAtLeast 1 = true
  exists_step : ∃ n : Int, (Number.exact b.min).isAtMost n = true ∧
    (Number.exact b.max).isAtLeast n = true

namespace Bounds.HasStep

variable {b : Bounds} (h : b.HasStep)
include h

/-- Within the bounds there is no step that is not one at least. -/
theorem pos_of_within {n : Int} (hn : TileRange.within n b = true) : 0 < n := by
  unfold TileRange.within at hn
  exact Number.Extended.le_of_between h.one_le (Bool.and_eq_true_iff.1 hn).1

/-- A minimum with a step above it is a number. -/
theorem min_defined : Number.exact b.min ≠ .undefined := by
  intro hundefined
  have hone := h.one_le
  rw [hundefined] at hone
  exact Bool.false_ne_true hone

/-- A maximum with a step below it is a number. -/
theorem max_defined : Number.exact b.max ≠ .undefined := by
  intro hundefined
  obtain ⟨n, -, hn⟩ := h.exists_step
  rw [hundefined] at hn
  exact Bool.false_ne_true hn

/-- A minimum of one at least is not raised to one. -/
theorem larger_min_one : Number.larger b.min 1 = b.min := by
  refine Number.larger_eq_left h.one_le ?_
  rw [Number.exact_one]
  decide

/-- The maximum is not raised to the minimum. -/
theorem larger_max_min : Number.larger b.max b.min = b.max := by
  obtain ⟨n, hmin, hmax⟩ := h.exists_step
  exact Number.larger_eq_left hmax hmin

/-- A walk takes a step exactly when the step lies within the bounds as they are. -/
theorem mem_steps_iff {n limit : Int} (hn : 0 ≤ n) (hlimit : n < limit)
    (hmax : n < Number.Extended.coordinateMax) :
    n ∈ ((Steps.ofBounds b).atMost limit).toList ↔ TileRange.within n b = true := by
  have hmin : Number.Extended.coordinateMin < n :=
    lt_of_lt_of_le (by decide) hn
  have hceil := Number.Extended.ceil_le_iff h.min_defined hmin.le hmax
  have hfloor := Number.Extended.le_floor_iff h.max_defined hmin hmax.le
  have hwithin : TileRange.within n b = true ↔ Number.ceil b.min ≤ n ∧ n ≤ Number.floor b.max := by
    unfold TileRange.within Number.ceil Number.floor
    rw [Bool.and_eq_true, hceil, hfloor]
  have hpos : 0 < Number.ceil b.min := by
    by_contra hle
    have hzero := (Number.Extended.ceil_le_iff h.min_defined (by decide) (by decide)).1 (not_lt.1 hle)
    exact absurd (Number.Extended.le_of_between h.one_le hzero) (by decide)
  -- A walk takes its first step even beyond the maximum; here the maximum does not lie before it.
  have hfirst : Number.ceil b.min = n → n ≤ Number.floor b.max := by
    intro hn'
    obtain ⟨m, hm, hm'⟩ := h.exists_step
    refine hfloor.2 (Number.Extended.isAtLeast_of_le hm' ?_)
    by_contra hmn
    have hone : 1 ≤ m := Number.Extended.le_of_between h.one_le hm
    have hle : Number.ceil b.min ≤ m :=
      (Number.Extended.ceil_le_iff h.min_defined (le_trans (by decide) hone)
        ((not_le.1 hmn).trans hmax)).2 hm
    exact hmn (hn' ▸ hle)
  rw [hwithin]
  unfold Steps.atMost Steps.ofBounds Steps.toList
  rw [mem_wholeNumbers]
  simp only
  omega

end Bounds.HasStep

/-! ## Lines on the grid -/

namespace Grid

/-- Steps from the centre that stay on the grid are no more than its reach. -/
theorem step_le_of_contains {g : Grid} {d : Direction} {n : Int}
    (h : g.contains (g.center.step d n) = true) : n ≤ g.reach := by
  have hb := contains_iff.1 h
  unfold center Cell.step Cell.shift side at hb
  cases d <;> simp only [Direction.row, Direction.col] at hb <;> omega

/-- The cells that a walk along a direction finds. -/
theorem mem_line_iff {g : Grid} {b : Bounds} (h : b.HasStep) {d : Direction} {c : Cell} :
    c ∈ g.line g.center d b ↔
      g.contains c = true ∧
        ∃ n : Int, 0 ≤ n ∧ TileRange.within n b = true ∧ c = g.center.step d n := by
  have hreach := g.reach_lt
  unfold line clip
  rw [List.mem_eraseDups, List.mem_filter, List.mem_map, and_comm]
  apply and_congr_right
  intro hc
  have hsteps : ∀ n : Int, 0 ≤ n → g.center.step d n = c →
      (n ∈ ((Steps.ofBounds b).atMost g.walkLimit).toList ↔ TileRange.within n b = true) := by
    rintro n hn rfl
    have hle := step_le_of_contains hc
    refine h.mem_steps_iff hn ?_ ?_
    · unfold walkLimit side
      omega
    · unfold Number.Extended.coordinateMax
      omega
  constructor
  · rintro ⟨n, hn, hstep⟩
    have hlimit : 0 ≤ g.walkLimit := by
      unfold walkLimit
      omega
    have hnonneg : 0 ≤ n := Steps.nonneg_of_mem_atMost hlimit hn
    exact ⟨n, hnonneg, (hsteps n hnonneg hstep).1 hn, hstep.symm⟩
  · rintro ⟨n, hnonneg, hn, hstep⟩
    exact ⟨n, (hsteps n hnonneg hstep.symm).2 hn, hstep.symm⟩

/-- A cell that a walk finds lies in the direction of the walk. -/
theorem directionTo_of_mem_line {g : Grid} {b : Bounds} (h : b.HasStep) {d : Direction} {c : Cell}
    (hc : c ∈ g.line g.center d b) : g.center.directionTo c = some d := by
  obtain ⟨-, n, -, hn, rfl⟩ := (mem_line_iff h).1 hc
  exact Cell.directionTo_step _ d (h.pos_of_within hn)

end Grid

/-- Off the actor's cell, the minimum of the test is one at least. -/
theorem TileRange.contains_lines_of_ne {directions : List Direction} {b : Bounds} {center c : Cell}
    (hc : c ≠ center) :
    (lines directions b).contains center c = true ↔
      (c.row - center.row = 0 ∨ c.col - center.col = 0 ∨
        (c.row - center.row).natAbs = (c.col - center.col).natAbs) ∧
      (∃ d ∈ directions, center.directionTo c = some d) ∧
      within (c.chebyshev center) ⟨Number.larger b.min 1, b.max⟩ = true := by
  unfold TileRange.contains
  simp only [if_neg hc, Bool.and_eq_true, Bool.or_eq_true, beq_iff_eq, Option.any_eq_true,
    List.contains_iff_mem, or_assoc, and_assoc]
  apply and_congr_right
  intro _
  apply and_congr_left
  intro _
  exact exists_congr fun d => and_comm

/-- The centre lies outside a line range that starts at one. -/
theorem TileRange.contains_lines_center {directions : List Direction} {b : Bounds} (h : b.HasStep)
    (center : Cell) : (lines directions b).contains center center = false := by
  unfold TileRange.contains Number.isZero
  simp only [if_true]
  rw [beq_eq_false_iff_ne]
  intro hzero
  have hone := h.one_le
  rw [hzero] at hone
  exact absurd hone (by decide)

/-- The test for a cell finds the cells that the walks find. -/
theorem Grid.contains_lines_iff {g : Grid} {directions : List Direction} {b : Bounds}
    (h : b.HasStep) {c : Cell} :
    g.contains c = true ∧ (TileRange.lines directions b).contains g.center c = true ↔
      ∃ d ∈ directions, c ∈ g.line g.center d b := by
  by_cases hc : c = g.center
  · subst hc
    rw [TileRange.contains_lines_center h]
    constructor
    · rintro ⟨-, hfalse⟩
      exact absurd hfalse Bool.false_ne_true
    · rintro ⟨d, -, hd⟩
      have hto := directionTo_of_mem_line h hd
      rw [Cell.directionTo_self] at hto
      exact absurd hto (by simp)
  · -- Off the centre the distance and the direction of a cell are the step that leads to it.
    rw [TileRange.contains_lines_of_ne hc, h.larger_min_one]
    constructor
    · rintro ⟨hgrid, hline, ⟨d, hd, hto⟩, hwithin⟩
      refine ⟨d, hd, (mem_line_iff h).2 ⟨hgrid, c.chebyshev g.center, ?_, hwithin, ?_⟩⟩
      · exact (h.pos_of_within hwithin).le
      · exact Cell.eq_step_of_directionTo hto hline
    · rintro ⟨d, hd, hmem⟩
      have hto := directionTo_of_mem_line h hmem
      obtain ⟨hgrid, n, hn, hwithin, hstep⟩ := (mem_line_iff h).1 hmem
      refine ⟨hgrid, ?_, ⟨d, hd, hto⟩, ?_⟩
      · rw [hstep]
        exact Cell.step_on_line _ d n
      · rw [hstep, Cell.chebyshev_step _ d hn]
        exact hwithin

end Reticle
