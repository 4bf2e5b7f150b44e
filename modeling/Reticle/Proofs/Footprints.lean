import Mathlib
import Reticle.Proofs.CheckedAreas

/-!
# Areas as clipped patterns

A shape within bounds is cut out of a pattern of displacements that knows neither the anchor nor
the grid (`Shape.pattern`). The pattern may go on for ever, while a walk rounds its ends to
coordinates and lowers both of them to the walk limit. A step from one cell of the grid to another
is shorter than the side, and among such steps neither makes a difference (`Grid.mem_walk_iff`); in
a cone, also a diagonal one, the cells beside the cell ahead lie no closer to the anchor
(`Grid.lt_side_of_cone`).
-/

namespace Reticle

/-! ## Rounding without limits -/

namespace Number.Extended

/-- A whole number, among the whole numbers with an end on both sides. -/
def whole (n : Int) : WithBot (WithTop Int) :=
  (n : WithTop Int)

/-- Whole numbers compare as they do among the values with two infinite ends. -/
theorem whole_le_whole {m n : Int} : whole m ≤ whole n ↔ m ≤ n := by
  unfold whole
  rw [WithBot.coe_le_coe, WithTop.coe_le_coe]

/-- The whole number at or above a reading, at one of the ends if the reading is. -/
def roundUp : Extended → WithBot (WithTop Int)
  | undefined => whole 0
  | bottom => ⊥
  | finite q => whole q.ceil
  | top => ⊤

/-- The whole number at or below a reading, at one of the ends if the reading is. -/
def roundDown : Extended → WithBot (WithTop Int)
  | undefined => whole 0
  | bottom => ⊥
  | finite q => whole q.floor
  | top => ⊤

/-- The nearest coordinate. -/
def saturate : WithBot (WithTop Int) → Int :=
  WithBot.recBotCoe coordinateMin (WithTop.recTopCoe coordinateMax clampCoordinate)

/-- Rounding up to a coordinate is rounding up without limit, and then saturating. -/
theorem ceil_eq_saturate (e : Extended) : e.ceil = saturate e.roundUp := by
  cases e <;> rfl

/-- Rounding down to a coordinate is rounding down without limit, and then saturating. -/
theorem floor_eq_saturate (e : Extended) : e.floor = saturate e.roundDown := by
  cases e <;> rfl

/-- Below the greatest coordinate, saturating keeps upper bounds. -/
theorem saturate_le_iff {n : WithBot (WithTop Int)} {k : Int} (hmin : coordinateMin ≤ k)
    (hmax : k < coordinateMax) : saturate n ≤ k ↔ n ≤ whole k := by
  induction n using WithBot.recBotCoe with
  | bot => exact iff_of_true hmin bot_le
  | coe n =>
    induction n using WithTop.recTopCoe with
    | top => exact iff_of_false hmax.not_ge (by simp [whole])
    | coe n =>
      show clampCoordinate n ≤ k ↔ whole n ≤ whole k
      rw [whole_le_whole]
      unfold clampCoordinate
      omega

/-- Above the least coordinate, saturating keeps lower bounds. -/
theorem le_saturate_iff {n : WithBot (WithTop Int)} {k : Int} (hmin : coordinateMin < k)
    (hmax : k ≤ coordinateMax) : k ≤ saturate n ↔ whole k ≤ n := by
  induction n using WithBot.recBotCoe with
  | bot => exact iff_of_false hmin.not_ge (by simp [whole])
  | coe n =>
    induction n using WithTop.recTopCoe with
    | top => exact iff_of_true hmax le_top
    | coe n =>
      show k ≤ clampCoordinate n ↔ whole k ≤ whole n
      rw [whole_le_whole]
      unfold clampCoordinate
      omega

/-- A positive whole number is within a maximum if it is after the maximum is rounded down. -/
theorem isAtLeast_iff_le_roundDown {e : Extended} {n : Int} (hn : 0 < n) :
    e.isAtLeast n = true ↔ whole n ≤ e.roundDown := by
  cases e with
  | undefined =>
    refine iff_of_false Bool.false_ne_true ?_
    rw [roundDown, whole_le_whole]
    exact hn.not_ge
  | bottom => exact iff_of_false Bool.false_ne_true (by simp [roundDown, whole])
  | finite q =>
    rw [roundDown, whole_le_whole, Rat.le_floor_iff]
    exact decide_eq_true_iff
  | top => exact iff_of_true rfl le_top

/-- Defined readings of which neither is below the other are the same. -/
theorem eq_of_not_isBelow {e f : Extended} (he : e ≠ undefined) (hf : f ≠ undefined)
    (hef : e.isBelow f = false) (hfe : f.isBelow e = false) : e = f := by
  cases e with
  | undefined => exact absurd rfl he
  | bottom =>
    cases f with
    | undefined => exact absurd rfl hf
    | bottom => rfl
    | finite q => cases hef
    | top => cases hef
  | finite p =>
    cases f with
    | undefined => exact absurd rfl hf
    | bottom => cases hfe
    | finite q =>
      have hp : ¬ p < q := of_decide_eq_false hef
      have hq : ¬ q < p := of_decide_eq_false hfe
      rw [le_antisymm (not_lt.1 hq) (not_lt.1 hp)]
    | top => cases hef
  | top =>
    cases f with
    | undefined => exact absurd rfl hf
    | bottom => cases hfe
    | finite q => cases hfe
    | top => rfl

end Number.Extended

/-! ## What bounds allow -/

namespace Bounds

open Number.Extended

/-- Both bounds are numbers or infinite, and the maximum is not below the minimum. -/
structure Resolved (b : Bounds) : Prop where
  min_defined : Number.exact b.min ≠ .undefined
  max_defined : Number.exact b.max ≠ .undefined
  ordered : (Number.exact b.max).isBelow (Number.exact b.min) = false

/-- Bounds are resolved if their minimum is defined. -/
theorem resolved_resolve {min max : Option Float} {defaultMin defaultMax : Float}
    (h : Number.exact (min.getD defaultMin) ≠ .undefined) :
    (resolve min max defaultMin defaultMax).Resolved := by
  have hself : ∀ e : Number.Extended, e.isBelow e = false := by
    rintro (_ | _ | q | _) <;> simp [Number.Extended.isBelow]
  unfold resolve Number.larger
  dsimp only
  split
  · exact ⟨h, h, hself _⟩
  · next hkept =>
    rw [not_or, Bool.not_eq_true] at hkept
    exact ⟨h, hkept.1, hkept.2⟩

/-- The steps ahead: from the minimum, rounded up and not below zero, to the maximum, rounded down
and not below the first step. -/
def steps (b : Bounds) : Set Int :=
  let first := Max.max (whole 0) (Number.exact b.min).roundUp
  {k | first ≤ whole k ∧ whole k ≤ Max.max first (Number.exact b.max).roundDown}

/-- The steps to the sides: from the minimum, rounded up, to the maximum, rounded down. -/
def sideSteps (b : Bounds) : Set Int :=
  {j | (Number.exact b.min).roundUp ≤ whole j ∧ whole j ≤ (Number.exact b.max).roundDown}

/-- The distances between the bounds, both rounded down and not below zero. A minimum beyond the
coordinates counts as the last coordinate. -/
def rings (b : Bounds) : Set Int :=
  {n | Max.max 0 (Number.floor b.min) ≤ n ∧
    whole n ≤ Max.max (whole 0) (Number.exact b.max).roundDown}

variable {b : Bounds} {k : Int}

/-- The steps of a shape, in terms of its bounds before they saturate. -/
theorem mem_steps_iff :
    k ∈ b.steps ↔ (0 ≤ k ∧ (Number.exact b.min).roundUp ≤ whole k) ∧
      ((k ≤ 0 ∨ whole k ≤ (Number.exact b.min).roundUp) ∨
        whole k ≤ (Number.exact b.max).roundDown) := by
  unfold steps
  simp only [Set.mem_ofPred_eq, max_le_iff, le_max_iff, whole_le_whole]

/-- Below the last coordinate the steps may be rounded to coordinates. -/
theorem mem_ofBounds_iff (hmax : k < Number.Extended.coordinateMax) :
    k ∈ (Steps.ofBounds b).toList ↔ k ∈ b.steps := by
  rw [mem_steps_iff]
  unfold Steps.ofBounds Steps.toList Number.ceil Number.floor
  rw [mem_wholeNumbers, Number.Extended.ceil_eq_saturate, Number.Extended.floor_eq_saturate]
  dsimp only
  rw [max_le_iff, le_max_iff, le_max_iff]
  by_cases hk : 0 ≤ k
  · have hmin : Number.Extended.coordinateMin < k := lt_of_lt_of_le (by decide) hk
    rw [Number.Extended.saturate_le_iff hmin.le hmax, Number.Extended.le_saturate_iff hmin hmax.le,
      Number.Extended.le_saturate_iff hmin hmax.le]
  · exact iff_of_false (fun h => hk h.1.1) fun h => hk h.1.1

namespace Resolved

variable (h : b.Resolved)
include h

/-- The lower of resolved bounds is the lower one. -/
theorem smaller_eq : Number.smaller b.min b.max = b.min := by
  unfold Number.smaller
  refine if_neg ?_
  rw [not_or, Bool.not_eq_true]
  exact ⟨h.min_defined, h.ordered⟩

/-- The upper of resolved bounds is the upper one. -/
theorem exact_larger_eq : Number.exact (Number.larger b.min b.max) = Number.exact b.max := by
  unfold Number.larger
  split
  · rfl
  · next hkept =>
    rw [not_or, Bool.not_eq_true] at hkept
    exact Number.Extended.eq_of_not_isBelow h.min_defined h.max_defined hkept.2 h.ordered

/-- Between the extreme coordinates the steps to the side are those that the saturated bounds allow.
-/
theorem mem_sideSteps_iff (hmin : Number.Extended.coordinateMin < k)
    (hmax : k < Number.Extended.coordinateMax) :
    Number.ceil (Number.smaller b.min b.max) ≤ k ∧ k ≤ Number.floor (Number.larger b.min b.max) ↔
      k ∈ b.sideSteps := by
  unfold Number.ceil Number.floor
  rw [h.smaller_eq, h.exact_larger_eq, Number.Extended.ceil_eq_saturate,
    Number.Extended.floor_eq_saturate, Number.Extended.saturate_le_iff hmin.le hmax,
    Number.Extended.le_saturate_iff hmin hmax.le]
  rfl

end Resolved

/-- A double is kept, or it has no whole number above zero below it and is replaced by zero. -/
theorem exact_nonNegative_cases (x : Float) :
    Number.exact (Number.nonNegative x) = Number.exact x ∨
      Number.exact (Number.nonNegative x) = .finite 0 ∧ Number.floor x ≤ 0 ∧
        ∀ n : Int, 0 < n → (Number.exact x).isAtLeast n = false := by
  have hzero : Number.exact 0 = .finite 0 := by decide +kernel
  unfold Number.nonNegative Number.larger Number.floor
  split
  · next hreplaced =>
    rw [hzero] at hreplaced ⊢
    refine .inr ⟨rfl, ?_⟩
    cases hx : Number.exact x with
    | undefined => exact ⟨le_rfl, fun _ _ => rfl⟩
    | bottom => exact ⟨by decide, fun _ _ => rfl⟩
    | top => simp [hx, isBelow] at hreplaced
    | finite q =>
      have hneg : q < 0 := by simpa [hx, isBelow] using hreplaced
      refine ⟨?_, fun n hn => decide_eq_false fun hq => ?_⟩
      · have hfloor : q.floor < 0 := Rat.floor_lt_iff.2 hneg
        show clampCoordinate q.floor ≤ 0
        unfold clampCoordinate coordinateMin
        omega
      · have hn' : (0 : Rat) < n := by exact_mod_cast hn
        linarith
  · exact .inl rfl

/-- Raising a bound to zero makes no difference to steps that start at zero. -/
theorem floor_nonNegative (x : Float) :
    Max.max 0 (Number.floor (Number.nonNegative x)) = Max.max 0 (Number.floor x) := by
  rcases exact_nonNegative_cases x with hkept | ⟨hzero, hfloor, -⟩
  · unfold Number.floor
    rw [hkept]
  · have hfloor' : Number.floor (Number.nonNegative x) = 0 := by
      unfold Number.floor
      rw [hzero]
      rfl
    omega

/-- Nor does it make a difference to reaching a positive number. -/
theorem isAtLeast_nonNegative {x : Float} {n : Int} (hn : 0 < n) :
    (Number.exact (Number.nonNegative x)).isAtLeast n = (Number.exact x).isAtLeast n := by
  rcases exact_nonNegative_cases x with hkept | ⟨hzero, -, hbeyond⟩
  · rw [hkept]
  · rw [hzero, hbeyond n hn]
    exact decide_eq_false (by exact_mod_cast hn.not_ge)

end Bounds

/-! ## Patterns -/

/-- The displacement of one step. -/
def Direction.unit (d : Direction) : Int × Int :=
  (d.row, d.col)

/-- The bounds of a shape that is built within bounds. -/
def Shape.bounds? : Shape → Option Bounds
  | band b | lines _ b | crossLine b | line b | cone b => some b
  | empty | everywhere | custom _ _ => none

/-- The displacements of a shape that is built within bounds. -/
def Shape.pattern (facing : Option Direction) : Shape → Set (Int × Int)
  | line b => {p | ∃ d ∈ facing, ∃ k ∈ b.steps, p = k • d.unit}
  | lines directions b => {p | ∃ d ∈ directions, ∃ k ∈ b.steps, p = k • d.unit}
  | cone b => {p | ∃ d ∈ facing, ∃ k ∈ b.steps, ∃ j : Int, |j| ≤ max 0 (k - 1) ∧
      p = k • d.unit + j • d.quarterTurn.unit}
  | crossLine b =>
    match facing with
    | some d => {p | ∃ j ∈ b.sideSteps, p = j • d.quarterTurn.unit}
    | none => {0}
  | band b => {p | |p.1| + |p.2| ∈ b.rings}
  | empty | everywhere | custom _ _ => ∅

/-- The pattern of a line: its steps along the facing. -/
theorem Shape.mem_pattern_line {b : Bounds} {d : Direction} {p : Int × Int} :
    p ∈ (line b).pattern (some d) ↔ ∃ k ∈ b.steps, p = k • d.unit := by
  simp [pattern]

/-- The pattern of a cone: at each step as many cells to either side as there were steps before. -/
theorem Shape.mem_pattern_cone {b : Bounds} {d : Direction} {p : Int × Int} :
    p ∈ (cone b).pattern (some d) ↔ ∃ k ∈ b.steps, ∃ j : Int, |j| ≤ max 0 (k - 1) ∧
      p = k • d.unit + j • d.quarterTurn.unit := by
  simp [pattern]

/-- The list has the cells of the grid at the displacements of a pattern from the anchor, each
once. -/
structure Grid.Copies (g : Grid) (anchor : Cell) (pattern : Set (Int × Int)) (cells : List Cell) :
    Prop where
  nodup : cells.Nodup
  mem_iff : ∀ c, c ∈ cells ↔ g.contains c = true ∧ ∃ p ∈ pattern, c = anchor.shift p.1 p.2

/-- Steps in a direction are a shift by a multiple of it. -/
theorem Cell.step_eq_shift (c : Cell) (d : Direction) (k : Int) :
    c.step d k = c.shift (k • d.unit).1 (k • d.unit).2 := by
  simp [Cell.step, Direction.unit, mul_comm]

/-- Steps in two directions are one shift by both. -/
theorem Cell.step_step_eq_shift (c : Cell) (d e : Direction) (k j : Int) :
    (c.step d k).step e j = c.shift (k • d.unit + j • e.unit).1 (k • d.unit + j • e.unit).2 := by
  simp [Cell.step, Cell.shift, Direction.unit, mul_comm, add_assoc]

namespace Grid

variable {g : Grid} {anchor : Cell}

/-- Clipped cells copy a pattern if the cells of the grid among them are those of the pattern. -/
theorem copies_clip {cells : List Cell} {pattern : Set (Int × Int)}
    (h : ∀ c, g.contains c = true → (c ∈ cells ↔ ∃ p ∈ pattern, c = anchor.shift p.1 p.2)) :
    g.Copies anchor pattern (g.clip cells) := by
  refine ⟨nodup_eraseDups _, fun c => ?_⟩
  rw [mem_clip, and_comm]
  exact and_congr_right (h c)

/-- Among the steps that stay on the grid, those walked are those within the bounds. -/
theorem mem_walk_iff {b : Bounds} {k : Int} (hk : k < g.side) :
    k ∈ ((Steps.ofBounds b).atMost g.walkLimit).toList ↔ k ∈ b.steps := by
  have hside := g.side_lt
  have hmax : k < Number.Extended.coordinateMax := by
    unfold Number.Extended.coordinateMax
    omega
  rw [← Bounds.mem_ofBounds_iff hmax]
  unfold Steps.atMost Steps.toList walkLimit
  rw [mem_wholeNumbers, mem_wholeNumbers]
  dsimp only
  omega

variable (hanchor : g.contains anchor = true)
include hanchor

/-- Steps that stay on the grid are fewer than its side. -/
theorem abs_lt_side_of_step {d : Direction} {k : Int}
    (h : g.contains (anchor.step d k) = true) : |k| < g.side := by
  rw [contains_iff] at hanchor h
  unfold Cell.step Cell.shift at h
  rw [abs_lt]
  cases d <;> simp only [Direction.row, Direction.col] at h <;> omega

/-- A cell of a cone is at least as many rows or columns away as there are steps ahead. -/
theorem lt_side_of_cone {d : Direction} {k j : Int}
    (h : g.contains ((anchor.step d k).step d.quarterTurn j) = true) : k < g.side := by
  rw [contains_iff] at hanchor h
  unfold Cell.step Cell.shift at h
  cases d <;> simp only [Direction.quarterTurn, Direction.row, Direction.col] at h <;> omega

/-- A line is its pattern, cut off at the edge of the grid only. -/
theorem copies_line (b : Bounds) (d : Direction) :
    g.Copies anchor ((Shape.line b).pattern (some d)) (g.line anchor d b) := by
  refine copies_clip fun c hc => ?_
  rw [List.mem_map]
  constructor
  · rintro ⟨k, hk, rfl⟩
    have hlt := (abs_lt.1 (abs_lt_side_of_step hanchor hc)).2
    exact ⟨_, Shape.mem_pattern_line.2 ⟨k, (mem_walk_iff hlt).1 hk, rfl⟩, anchor.step_eq_shift d k⟩
  · rintro ⟨_, hp, rfl⟩
    obtain ⟨k, hk, rfl⟩ := Shape.mem_pattern_line.1 hp
    rw [← Cell.step_eq_shift] at hc ⊢
    have hlt := (abs_lt.1 (abs_lt_side_of_step hanchor hc)).2
    exact ⟨k, (mem_walk_iff hlt).2 hk, rfl⟩

/-- Several lines are their pattern, cut off at the edge of the grid only. -/
theorem copies_lines (b : Bounds) (directions : List Direction) (facing : Option Direction) :
    g.Copies anchor ((Shape.lines directions b).pattern facing) (g.lines anchor directions b) := by
  refine ⟨nodup_eraseDups _, fun c => ?_⟩
  unfold lines
  rw [List.mem_eraseDups, List.mem_flatMap]
  constructor
  · rintro ⟨d, hd, hmem⟩
    obtain ⟨hc, _, hp, rfl⟩ := ((copies_line hanchor b d).mem_iff c).1 hmem
    obtain ⟨k, hk, rfl⟩ := Shape.mem_pattern_line.1 hp
    exact ⟨hc, _, ⟨d, hd, k, hk, rfl⟩, rfl⟩
  · rintro ⟨hc, _, ⟨d, hd, k, hk, rfl⟩, rfl⟩
    have hp : k • d.unit ∈ (Shape.line b).pattern (some d) :=
      Shape.mem_pattern_line.2 ⟨k, hk, rfl⟩
    exact ⟨d, hd, ((copies_line hanchor b d).mem_iff _).2 ⟨hc, _, hp, rfl⟩⟩

/-- A cone is its pattern, cut off at the edge of the grid only. -/
theorem copies_cone (b : Bounds) (d : Direction) :
    g.Copies anchor ((Shape.cone b).pattern (some d)) (g.cone anchor d b) := by
  refine copies_clip fun c hc => ?_
  rw [List.mem_flatMap]
  constructor
  · rintro ⟨k, hk, hside⟩
    obtain ⟨j, hj, rfl⟩ := List.mem_map.1 hside
    have hwidth := abs_le.2 (mem_wholeNumbers.1 hj)
    have hstep := (mem_walk_iff (lt_side_of_cone hanchor hc)).1 hk
    exact ⟨_, Shape.mem_pattern_cone.2 ⟨k, hstep, j, hwidth, rfl⟩,
      anchor.step_step_eq_shift d d.quarterTurn k j⟩
  · rintro ⟨_, hp, rfl⟩
    obtain ⟨k, hk, j, hwidth, rfl⟩ := Shape.mem_pattern_cone.1 hp
    rw [← Cell.step_step_eq_shift] at hc ⊢
    refine ⟨k, (mem_walk_iff (lt_side_of_cone hanchor hc)).2 hk, List.mem_map.2 ⟨j, ?_, rfl⟩⟩
    exact mem_wholeNumbers.2 (abs_le.1 hwidth)

/-- A crossing line is its pattern, cut off at the edge of the grid only. -/
theorem copies_crossLine {b : Bounds} (hb : b.Resolved) (facing : Option Direction) :
    g.Copies anchor ((Shape.crossLine b).pattern facing) (g.crossLine anchor facing b) := by
  have hside := g.side_lt
  cases facing with
  | none =>
    refine ⟨List.nodup_singleton anchor, fun c => ?_⟩
    show c ∈ [anchor] ↔ _ ∧ ∃ p ∈ ({0} : Set (Int × Int)), c = anchor.shift p.1 p.2
    have hzero : anchor.shift 0 0 = anchor := by simp [Cell.shift]
    simp only [List.mem_singleton, Set.mem_singleton_iff, exists_eq_left, Prod.fst_zero,
      Prod.snd_zero, hzero]
    exact ⟨fun hc => ⟨hc ▸ hanchor, hc⟩, fun hc => hc.2⟩
  | some d =>
    -- On the grid the cap of the walk and the saturated bounds let the same steps through.
    have hwalk : ∀ {j : Int}, g.contains (anchor.step d.quarterTurn j) = true →
        (j ∈ wholeNumbers (max (Number.ceil (Number.smaller b.min b.max)) (-g.walkLimit))
            (min (Number.floor (Number.larger b.min b.max)) g.walkLimit) ↔ j ∈ b.sideSteps) := by
      intro j hj
      have hlt := abs_lt.1 (abs_lt_side_of_step hanchor hj)
      rw [← hb.mem_sideSteps_iff (by unfold Number.Extended.coordinateMin; omega)
        (by unfold Number.Extended.coordinateMax; omega), mem_wholeNumbers]
      unfold walkLimit
      omega
    refine copies_clip fun c hc => ?_
    rw [List.mem_map]
    constructor
    · rintro ⟨j, hj, rfl⟩
      exact ⟨_, ⟨j, (hwalk hc).1 hj, rfl⟩, anchor.step_eq_shift d.quarterTurn j⟩
    · rintro ⟨_, ⟨j, hj, rfl⟩, rfl⟩
      rw [← Cell.step_eq_shift] at hc ⊢
      exact ⟨j, (hwalk hc).2 hj, rfl⟩

omit hanchor in
/-- A band is its pattern, cut off at the edge of the grid only. -/
theorem copies_band (b : Bounds) (facing : Option Direction) :
    g.Copies anchor ((Shape.band b).pattern facing) (g.band anchor b.nonNegative) := by
  refine ⟨(g.lists_filter _).nodup, fun c => ?_⟩
  have hdistance : c.manhattan anchor = |c.row - anchor.row| + |c.col - anchor.col| := by
    unfold Cell.manhattan
    rw [Int.abs_eq_natAbs, Int.abs_eq_natAbs]
  have hexists : (∃ p ∈ (Shape.band b).pattern facing, c = anchor.shift p.1 p.2) ↔
      c.manhattan anchor ∈ b.rings := by
    rw [hdistance]
    constructor
    · rintro ⟨p, hp, rfl⟩
      simpa [Cell.shift, Shape.pattern] using hp
    · intro hring
      exact ⟨(c.row - anchor.row, c.col - anchor.col), hring, by simp [Cell.shift]⟩
  rw [mem_band_iff, hexists]
  have hnonneg : 0 ≤ c.manhattan anchor := by
    rw [hdistance]
    positivity
  refine and_congr_right fun _ => ?_
  unfold Bounds.nonNegative Bounds.rings
  dsimp only
  rw [Bounds.floor_nonNegative, Set.mem_ofPred_eq, le_max_iff, Number.Extended.whole_le_whole]
  refine and_congr_right fun _ => ?_
  rcases hnonneg.eq_or_lt with hzero | hpos
  · exact iff_of_true (.inl hzero.symm) (.inl hzero.ge)
  · rw [Bounds.isAtLeast_nonNegative hpos, Number.Extended.isAtLeast_iff_le_roundDown hpos]
    exact or_congr_left ⟨le_of_eq, fun hle => absurd hpos hle.not_gt⟩

end Grid

/-- A shape within bounds has the cells of the grid at the displacements of its pattern, each once,
around every anchor on the grid. -/
theorem Shape.cells_copy_pattern {shape : Shape} {b : Bounds} (hshape : shape.bounds? = some b)
    (hb : b.Resolved) {grid : Grid} {anchor : Cell} (hanchor : grid.contains anchor = true)
    (facing : Option Direction) :
    grid.Copies anchor (shape.pattern facing) (shape.cells grid anchor facing) := by
  have hnothing : ∀ {pattern : Set (Int × Int)}, (∀ p, p ∉ pattern) →
      grid.Copies anchor pattern [] := by
    intro pattern hpattern
    refine ⟨List.nodup_nil, fun c => iff_of_false List.not_mem_nil ?_⟩
    rintro ⟨-, p, hp, -⟩
    exact hpattern p hp
  cases shape with
  | empty => cases hshape
  | everywhere => cases hshape
  | custom offsets turning => cases hshape
  | band b' => exact Grid.copies_band b' facing
  | lines directions b' => exact Grid.copies_lines hanchor b' directions facing
  | crossLine b' =>
    obtain rfl := Option.some.inj hshape
    exact Grid.copies_crossLine hanchor hb facing
  | line b' =>
    cases facing with
    | some d => exact Grid.copies_line hanchor b' d
    | none => exact hnothing fun p ⟨d, hd, _⟩ => Option.not_mem_none d hd
  | cone b' =>
    cases facing with
    | some d => exact Grid.copies_cone hanchor b' d
    | none => exact hnothing fun p ⟨d, hd, _⟩ => Option.not_mem_none d hd

/-! ## Patterns in 32 bits -/

/-- In 32 bits the cells of a shape within bounds, around an anchor on the grid, are those of the
grid at the displacements of its pattern, each once, exactly if all numbers on the way fit; the cap
of a walk is one of them. They fit while five times the side of the grid is a 32-bit number. On a
grid with more than `2 ^ 30` cells a side the cap itself overflows, and nothing that walks has any
cells. -/
theorem Shape.checkedCells_copy_pattern {shape : Shape} {b : Bounds}
    (hshape : shape.bounds? = some b) (hb : b.Resolved) {grid : Grid} {anchor : Cell}
    (hanchor : grid.contains anchor = true) (facing : Option Direction) :
    ∃ cells, grid.Copies anchor (shape.pattern facing) cells ∧
      (shape.checkedCells grid anchor facing).Exactly cells (shape.Fits grid anchor facing) ∧
      (5 * grid.side ≤ 0x7FFFFFFF → shape.checkedCells grid anchor facing = .ok cells) ∧
      (0x40000000 < grid.side → shape.walks facing = true →
        shape.checkedCells grid anchor facing = .error .overflow) := by
  have hexactly := shape.checkedCells_exactly grid anchor facing
  refine ⟨_, shape.cells_copy_pattern hshape hb hanchor facing, hexactly, fun hside => ?_,
    fun hside hwalks => ?_⟩
  · exact hexactly.ok (shape.fits_of_side_le hside hanchor facing)
  · exact hexactly.overflow (Shape.not_fits_of_lt_side hside shape hwalks anchor)

/-- A diagonal cone of one to three steps from a corner of the grid is computed. -/
theorem Shape.checkedCells_copy_pattern_example :
    let b := Bounds.resolve (some 1) (some 3) 1 1
    let grid := Grid.ofSide 7
    (cone b).bounds? = some b ∧ b.Resolved ∧ grid.contains ⟨6, 0⟩ = true ∧
      ∃ cells, (cone b).checkedCells grid ⟨6, 0⟩ (some .northEast) = .ok cells ∧
        grid.Copies ⟨6, 0⟩ ((cone b).pattern (some .northEast)) cells := by
  have hb : (Bounds.resolve (some 1) (some 3) 1 1).Resolved :=
    Bounds.resolved_resolve (by decide +kernel)
  have hanchor : (Grid.ofSide 7).contains ⟨6, 0⟩ = true := by decide
  have hshape : (cone (.resolve (some 1) (some 3) 1 1)).bounds? =
      some (.resolve (some 1) (some 3) 1 1) := rfl
  obtain ⟨cells, hcopies, -, hgiven, -⟩ :=
    checkedCells_copy_pattern hshape hb hanchor (some .northEast)
  exact ⟨rfl, hb, hanchor, cells, hgiven (by decide), hcopies⟩

/-- A line of one to three steps within a wide grid overflows, although its cells lie on the grid. -/
theorem Shape.line_overflows_on_wide_grid :
    let b := Bounds.resolve (some 1) (some 3) 1 1
    let grid := Grid.ofSide 1073741825
    b.Resolved ∧ grid.contains ⟨5, 5⟩ = true ∧
      (∃ p ∈ (line b).pattern (some .east), grid.contains (Cell.shift ⟨5, 5⟩ p.1 p.2) = true) ∧
      (line b).checkedCells grid ⟨5, 5⟩ (some .east) = .error .overflow := by
  have hb : (Bounds.resolve (some 1) (some 3) 1 1).Resolved :=
    Bounds.resolved_resolve (by decide +kernel)
  refine ⟨hb, by decide, ⟨(0, 1), mem_pattern_line.2 ⟨1, ?_, rfl⟩, by decide⟩, ?_⟩
  · exact (Bounds.mem_ofBounds_iff (by decide)).1 (by decide +kernel)
  · exact (checkedCells_exactly _ _ _ _).overflow
      (not_fits_of_lt_side (by decide) _ rfl _)

end Reticle
