import Reticle.Area.Checked
import Reticle.Proofs.AreaCells
import Reticle.Proofs.CheckedNumbers
import Reticle.Proofs.Previews

/-!
# Areas in 32 bits

A pattern is walked before it is cut off at the edge of the grid, so the cells beyond the edge have
to be 32-bit cells too, and so has the number of steps after which every walk is cut off. For every
shape this gives the exact condition under which its cells are computed (`Shape.Fits`). Around a
cell of the grid it holds while five times the side is a 32-bit number, and no walk fits when twice
the side is none.
-/

namespace Reticle

open Checked

/-! ## What is walked -/

namespace Grid

/-- The cells of a line before it is cut off at the edge. -/
def walkedLine (g : Grid) (origin : Cell) (d : Direction) (b : Bounds) : List Cell :=
  ((Steps.ofBounds b).atMost g.walkLimit).toList.map (origin.step d)

/-- The cells of a cone at one step. -/
def coneRow (origin : Cell) (d side : Direction) (step : Int) : List Cell :=
  (wholeNumbers (-max 0 (step - 1)) (max 0 (step - 1))).map ((origin.step d step).step side)

/-- The cells of a cone before it is cut off at the edge. -/
def walkedCone (g : Grid) (origin : Cell) (d : Direction) (b : Bounds) : List Cell :=
  ((Steps.ofBounds b).atMost g.walkLimit).toList.flatMap (coneRow origin d d.quarterTurn)

/-- The cells of a crossing line before it is cut off at the edge. -/
def walkedCrossLine (g : Grid) (through : Cell) (d : Direction) (b : Bounds) : List Cell :=
  (crossSteps b (-g.walkLimit) g.walkLimit).map (through.step d.quarterTurn)

/-- The limit of walks is a 32-bit number, and so are the coordinates of all cells walked. -/
def WalkFits (g : Grid) (walked : List Cell) : Prop :=
  g.walkLimit ≤ 0x7FFFFFFF ∧ ∀ c ∈ walked, c.IsAddress

end Grid

/-- All numbers that the cells of a shape are computed from are 32-bit numbers. Bands compute the
distances of all cells of the grid, unless their bounds are in the wrong order. -/
def Shape.Fits (grid : Grid) (anchor : Cell) (facing : Option Direction) : Shape → Prop
  | empty | everywhere | custom _ _ => True
  | band b =>
    max 0 (Number.floor b.nonNegative.max) < max 0 (Number.floor b.nonNegative.min) ∨
      ∀ c ∈ grid.cells, c.manhattan anchor ≤ 0x7FFFFFFF
  | lines directions b => ∀ d ∈ directions, grid.WalkFits (grid.walkedLine anchor d b)
  | crossLine b => ∀ d ∈ facing, grid.WalkFits (grid.walkedCrossLine anchor d b)
  | line b => ∀ d ∈ facing, grid.WalkFits (grid.walkedLine anchor d b)
  | cone b => ∀ d ∈ facing, grid.WalkFits (grid.walkedCone anchor d b)

/-! ## Patterns -/

/-- A double is rounded down to a coordinate. -/
theorem Number.floor_le (x : Float) : floor x ≤ 0x7FFFFFFF := by
  unfold floor
  cases exact x with
  | undefined => decide
  | bottom => decide
  | finite q =>
    show Extended.clampCoordinate q.floor ≤ 0x7FFFFFFF
    unfold Extended.clampCoordinate Extended.coordinateMin Extended.coordinateMax
    omega
  | top => exact le_rfl

namespace Grid

variable {g : Grid}

/-- The limit of walks is computed exactly if it is a 32-bit number. -/
theorem checkedWalkLimit_exactly (g : Grid) :
    g.checkedWalkLimit.Exactly g.walkLimit (g.walkLimit ≤ 0x7FFFFFFF) := by
  have hcomm : (g.side : Int) * 2 = g.walkLimit := Int.mul_comm _ _
  unfold checkedWalkLimit
  rw [hcomm]
  refine (fit_exactly _).congr ?_
  rw [Number.fits_iff]
  unfold walkLimit
  omega

/-- A walk takes no step back and none beyond its limit. -/
theorem mem_steps {b : Bounds} {n : Int}
    (h : n ∈ ((Steps.ofBounds b).atMost g.walkLimit).toList) : 0 ≤ n ∧ n ≤ g.walkLimit := by
  obtain ⟨hfirst, hlast⟩ := mem_wholeNumbers.1 h
  simp only [Steps.atMost, Steps.ofBounds, walkLimit] at hfirst hlast ⊢
  omega

/-- Steps from a cell are walked exactly if all of them lead to cells in the range. -/
theorem mapM_checkedStep_exactly (origin : Cell) (d : Direction) {steps : List Int}
    (hsteps : ∀ n ∈ steps, n.natAbs ≤ 0x7FFFFFFF) :
    (steps.mapM (origin.checkedStep d)).Exactly (steps.map (origin.step d))
      (∀ c ∈ steps.map (origin.step d), c.IsAddress) :=
  (Exactly.mapM fun n hn => origin.checkedStep_exactly d (hsteps n hn)).congr
    List.forall_mem_map.symm

/-- A line is cast exactly when its walk fits; otherwise the program overflows. -/
theorem checkedLine_exactly (g : Grid) (origin : Cell) (d : Direction) (b : Bounds) :
    (g.checkedLine origin d b).Exactly (g.line origin d b)
      (g.WalkFits (g.walkedLine origin d b)) := by
  refine g.checkedWalkLimit_exactly.bind fun hlimit => ?_
  refine (mapM_checkedStep_exactly origin d fun n hn => ?_).map g.clip
  have hn := mem_steps hn
  omega

/-- Lines are computed one after the other, so all of them have to fit. -/
theorem checkedLines_exactly (g : Grid) (origin : Cell) (directions : List Direction)
    (b : Bounds) :
    (g.checkedLines origin directions b).Exactly (g.lines origin directions b)
      (∀ d ∈ directions, g.WalkFits (g.walkedLine origin d b)) := by
  have hlines : (directions.mapM fun d => g.checkedLine origin d b).Exactly
      (directions.map fun d => g.line origin d b)
      (∀ d ∈ directions, g.WalkFits (g.walkedLine origin d b)) :=
    Exactly.mapM fun d _ => g.checkedLine_exactly origin d b
  exact hlines.map fun lines => lines.flatten.eraseDups

/-- The cell ahead is one of the cells of its row. -/
theorem mem_coneRow (origin : Cell) (d side : Direction) (step : Int) :
    origin.step d step ∈ coneRow origin d side step := by
  refine List.mem_map.2 ⟨0, mem_wholeNumbers.2 (by omega), ?_⟩
  simp [Cell.step, Cell.shift]

/-- The numbers that a row of a cone is computed from fit once its cells do. -/
theorem checkedConeRow_exactly (origin : Cell) (d side : Direction) {step : Int}
    (hstep : 0 ≤ step ∧ step ≤ 0x7FFFFFFF) :
    (checkedConeRow origin d side step).Exactly (coneRow origin d side step)
      (∀ c ∈ coneRow origin d side step, c.IsAddress) := by
  have hbefore : Number.Fits (step - 1) ∧ Number.Fits (-max 0 (step - 1)) := by
    rw [Number.fits_iff, Number.fits_iff]
    omega
  have hrow : ((wholeNumbers (-max 0 (step - 1)) (max 0 (step - 1))).mapM
      ((origin.step d step).checkedStep side)).Exactly (coneRow origin d side step)
      (∀ c ∈ coneRow origin d side step, c.IsAddress) := by
    refine mapM_checkedStep_exactly _ side fun n hn => ?_
    have hn := mem_wholeNumbers.1 hn
    omega
  refine ((origin.checkedStep_exactly d (by omega)).bind fun _ => (fit_exactly _).bind fun _ =>
    (fit_exactly _).bind fun _ => hrow).congr ?_
  exact ⟨fun h => h.2.2.2, fun h => ⟨h _ (mem_coneRow origin d side step), hbefore.1, hbefore.2, h⟩⟩

/-- A cone is cast exactly when its walk fits. -/
theorem checkedCone_exactly (g : Grid) (origin : Cell) (d : Direction) (b : Bounds) :
    (g.checkedCone origin d b).Exactly (g.cone origin d b)
      (g.WalkFits (g.walkedCone origin d b)) := by
  unfold checkedCone
  rw [d.checkedQuarterTurn_eq, ok_bind]
  refine (g.checkedWalkLimit_exactly.bind fun hlimit => ?_).congr
    (and_congr_right fun _ => List.forall_mem_flatMap.symm)
  have hrow : ∀ n ∈ ((Steps.ofBounds b).atMost g.walkLimit).toList,
      (checkedConeRow origin d d.quarterTurn n).Exactly (coneRow origin d d.quarterTurn n)
        (∀ c ∈ coneRow origin d d.quarterTurn n, c.IsAddress) := fun n hn =>
    checkedConeRow_exactly origin d d.quarterTurn ⟨(mem_steps hn).1, (mem_steps hn).2.trans hlimit⟩
  have hrows := Exactly.mapM hrow
  exact hrows.map fun rows => g.clip rows.flatten

/-- The steps of a crossing line respect both limits. -/
theorem mem_crossSteps {b : Bounds} {least greatest n : Int} (h : n ∈ crossSteps b least greatest) :
    least ≤ n ∧ n ≤ greatest := by
  obtain ⟨hfirst, hlast⟩ := mem_wholeNumbers.1 h
  exact ⟨(le_max_right _ _).trans hfirst, hlast.trans (min_le_right _ _)⟩

/-- A crossing line is cast exactly when its walk fits. -/
theorem checkedCrossLine_exactly (g : Grid) (through : Cell) (d : Direction) (b : Bounds) :
    (g.checkedCrossLine through (some d) b).Exactly (g.crossLine through (some d) b)
      (g.WalkFits (g.walkedCrossLine through d b)) := by
  have hleast : -(g.side : Int) * 2 = -g.walkLimit := by
    unfold walkLimit
    omega
  have hwalk : (do
      let limit ← g.checkedWalkLimit
      let cells ← (crossSteps b (-(g.side : Int) * 2) limit).mapM
        (through.checkedStep d.quarterTurn)
      return g.clip cells).Exactly (g.crossLine through (some d) b)
        (g.WalkFits (g.walkedCrossLine through d b)) := by
    rw [hleast]
    refine g.checkedWalkLimit_exactly.bind fun hlimit => ?_
    refine (mapM_checkedStep_exactly through d.quarterTurn fun n hn => ?_).map g.clip
    have hn := mem_crossSteps hn
    omega
  unfold checkedCrossLine
  dsimp only
  rw [d.checkedQuarterTurn_eq, ok_bind]
  refine Exactly.congr ((fit_exactly _).bind fun _ => (fit_exactly _).bind fun _ => hwalk) ?_
  have hnegated : g.WalkFits (g.walkedCrossLine through d b) →
      Number.Fits (-g.side) ∧ Number.Fits (-g.side * 2) := by
    rintro ⟨hlimit, -⟩
    unfold walkLimit at hlimit
    rw [Number.fits_iff, Number.fits_iff]
    omega
  exact ⟨fun h => h.2.2, fun h => ⟨(hnegated h).1, (hnegated h).2, h⟩⟩

/-- Bounds in the wrong order have no cell between them. -/
theorem band_eq_nil {g : Grid} {center : Cell} {b : Bounds}
    (h : max 0 (Number.floor b.max) < max 0 (Number.floor b.min)) : g.band center b = [] := by
  rw [List.eq_nil_iff_forall_not_mem]
  intro c hc
  obtain ⟨-, hleast, hgreatest⟩ := mem_band_iff.1 hc
  have hbound := Number.floor_le b.min
  rcases hgreatest with hzero | hgreatest
  · omega
  · -- The distance may lie beyond the coordinates, where the maximum is rounded to the last one.
    have hdefined : Number.exact b.max ≠ .undefined := by
      intro hundefined
      rw [hundefined] at hgreatest
      exact Bool.false_ne_true hgreatest
    have hfloor := (Number.Extended.le_floor_iff hdefined (n := max 0 (Number.floor b.min))
      (by unfold Number.Extended.coordinateMin; omega)
      (by unfold Number.Extended.coordinateMax; omega)).2
        (Number.Extended.isAtLeast_of_le hgreatest hleast)
    change _ ≤ Number.floor b.max at hfloor
    omega

/-- A band is listed exactly when it is empty or every distance that is measured fits; distances are
not measured for an empty band. -/
theorem checkedBand_exactly (g : Grid) (center : Cell) (b : Bounds) :
    (g.checkedBand center b).Exactly (g.band center b)
      (max 0 (Number.floor b.max) < max 0 (Number.floor b.min) ∨
        ∀ c ∈ g.cells, c.manhattan center ≤ 0x7FFFFFFF) := by
  unfold checkedBand
  dsimp only
  split
  · next hempty =>
    rw [band_eq_nil hempty]
    exact (Exactly.of_ok []).congr (iff_of_true trivial (.inl hempty))
  · next hordered =>
    -- Comparing whole distances is comparing them with the bounds, because none of them saturates.
    have hband : (∀ c ∈ g.cells, c.manhattan center ≤ 0x7FFFFFFF) →
        g.cells.filter (fun c => decide (max 0 (Number.floor b.min) ≤ c.manhattan center ∧
          c.manhattan center ≤ max 0 (Number.floor b.max))) = g.band center b := by
      intro hdistances
      refine List.filter_congr fun c hc => ?_
      have hmem := mem_band_iff_le_floor (g := g) (b := b) (hdistances c hc)
      unfold band at hmem
      rw [List.mem_filter, and_iff_right hc, and_iff_right (mem_cells.1 hc)] at hmem
      rw [Bool.eq_iff_iff, hmem, decide_eq_true_iff]
    have hkept := Exactly.filterM fun c (_ : c ∈ g.cells) =>
      (c.checkedManhattan_exactly center).map fun distance =>
        decide (max 0 (Number.floor b.min) ≤ distance ∧ distance ≤ max 0 (Number.floor b.max))
    refine Exactly.congr ⟨fun hdistances => ?_, hkept.overflow⟩ (or_iff_right hordered).symm
    rw [← hband hdistances]
    exact hkept.ok hdistances

end Grid

/-! ## Shapes -/

/-- The cells of a shape are computed exactly if they fit, and overflow otherwise. -/
theorem Shape.checkedCells_exactly (shape : Shape) (grid : Grid) (anchor : Cell)
    (facing : Option Direction) :
    (shape.checkedCells grid anchor facing).Exactly (shape.cells grid anchor facing)
      (shape.Fits grid anchor facing) := by
  have hsome : ∀ (P : Direction → Prop) (d : Direction), P d ↔ ∀ e ∈ some d, P e := by simp
  have hnone : ∀ {P : Direction → Prop}, True ↔ ∀ e ∈ (none : Option Direction), P e := by simp
  cases shape with
  | empty => exact .of_ok []
  | everywhere => exact .of_ok grid.cells
  | custom offsets turning =>
    refine ⟨fun _ => ?_, fun h => absurd trivial h⟩
    cases turning <;> cases facing with
    | none => rfl
    | some d => cases d <;> rfl
  | band b => exact grid.checkedBand_exactly anchor b.nonNegative
  | lines directions b => exact grid.checkedLines_exactly anchor directions b
  | crossLine b =>
    cases facing with
    | none => exact (Exactly.of_ok [anchor]).congr hnone
    | some d =>
      exact (grid.checkedCrossLine_exactly anchor d b).congr
        (hsome (fun d => grid.WalkFits (grid.walkedCrossLine anchor d b)) d)
  | line b =>
    cases facing with
    | none => exact (Exactly.of_ok []).congr hnone
    | some d =>
      exact (grid.checkedLine_exactly anchor d b).congr
        (hsome (fun d => grid.WalkFits (grid.walkedLine anchor d b)) d)
  | cone b =>
    cases facing with
    | none => exact (Exactly.of_ok []).congr hnone
    | some d =>
      exact (grid.checkedCone_exactly anchor d b).congr
        (hsome (fun d => grid.WalkFits (grid.walkedCone anchor d b)) d)

/-- Sparing the actor's cell takes no numbers. -/
theorem Area.checkedCells_exactly (a : Area) (grid : Grid) (anchor : Cell)
    (facing : Option Direction) :
    (a.checkedCells grid anchor facing).Exactly (a.cells grid anchor facing)
      (a.shape.Fits grid anchor facing) :=
  (a.shape.checkedCells_exactly grid anchor facing).map _

/-! ## Small and large grids -/

namespace Grid

variable {g : Grid} {anchor : Cell} {d : Direction}

/-- On a grid of at most `2 ^ 28` cells a side all cells are of moderate size. -/
theorem moderate_of_contains {c : Cell} (hside : g.side ≤ 0x10000000)
    (hc : g.contains c = true) : c.Moderate := by
  obtain ⟨hr, hr', hc, hc'⟩ := Grid.contains_iff.1 hc
  constructor <;> omega

section

variable (hside : 5 * g.side ≤ 0x7FFFFFFF) (hanchor : g.contains anchor = true)
include hside hanchor

/-- No step along a line is longer than the walk limit. -/
theorem isAddress_step {n : Int} (hn : n.natAbs ≤ 2 * g.side) :
    (anchor.step d n).IsAddress := by
  obtain ⟨hr, hr', hc, hc'⟩ := contains_iff.1 hanchor
  unfold Cell.IsAddress Cell.step Cell.shift
  cases d <;> simp only [Direction.row, Direction.col] <;> omega

/-- Nor is one to the side of a cone. -/
theorem isAddress_step_step {side : Direction} {n k : Int} (hn : n.natAbs ≤ 2 * g.side)
    (hk : k.natAbs ≤ 2 * g.side) : ((anchor.step d n).step side k).IsAddress := by
  obtain ⟨hr, hr', hc, hc'⟩ := contains_iff.1 hanchor
  unfold Cell.IsAddress Cell.step Cell.shift
  cases d <;> cases side <;> simp only [Direction.row, Direction.col] <;> omega

/-- From an anchor on a grid five times whose side fits, every line fits. -/
theorem walkFits_line (b : Bounds) : g.WalkFits (g.walkedLine anchor d b) := by
  refine ⟨by unfold walkLimit; omega, fun c hc => ?_⟩
  obtain ⟨n, hn, rfl⟩ := List.mem_map.1 hc
  have hn := mem_steps hn
  unfold walkLimit at hn
  exact isAddress_step hside hanchor (by omega)

/-- Under the same limit every crossing line fits. -/
theorem walkFits_crossLine (b : Bounds) : g.WalkFits (g.walkedCrossLine anchor d b) := by
  refine ⟨by unfold walkLimit; omega, fun c hc => ?_⟩
  obtain ⟨n, hn, rfl⟩ := List.mem_map.1 hc
  have hn := mem_crossSteps hn
  unfold walkLimit at hn
  exact isAddress_step hside hanchor (by omega)

/-- Under the same limit every cone fits. -/
theorem walkFits_cone (b : Bounds) : g.WalkFits (g.walkedCone anchor d b) := by
  refine ⟨by unfold walkLimit; omega, fun c hc => ?_⟩
  obtain ⟨n, hn, hrow⟩ := List.mem_flatMap.1 hc
  obtain ⟨k, hk, rfl⟩ := List.mem_map.1 hrow
  have hn := mem_steps hn
  have hk := mem_wholeNumbers.1 hk
  unfold walkLimit at hn
  exact isAddress_step_step hside hanchor (by omega) (by omega)

end

end Grid

/-- Around a cell of the grid every shape fits while five times the side is a 32-bit number: an
anchor is less than a side away from the edges, and a cone takes two sides ahead and two across. -/
theorem Shape.fits_of_side_le {grid : Grid} {anchor : Cell} (hside : 5 * grid.side ≤ 0x7FFFFFFF)
    (hanchor : grid.contains anchor = true) (shape : Shape) (facing : Option Direction) :
    shape.Fits grid anchor facing := by
  cases shape with
  | empty => trivial
  | everywhere => trivial
  | custom offsets turning => trivial
  | band b =>
    refine .inr fun c hc => ?_
    obtain ⟨hr, hr', hc, hc'⟩ := Grid.contains_iff.1 (Grid.mem_cells.1 hc)
    obtain ⟨hr, hr', hc, hc'⟩ := Grid.contains_iff.1 hanchor
    unfold Cell.manhattan
    omega
  | lines directions b => exact fun d _ => Grid.walkFits_line hside hanchor b
  | crossLine b => exact fun d _ => Grid.walkFits_crossLine hside hanchor b
  | line b => exact fun d _ => Grid.walkFits_line hside hanchor b
  | cone b => exact fun d _ => Grid.walkFits_cone hside hanchor b

/-- The shape takes steps: a line, a cone or a crossing line that faces a direction, and lines in
some direction. -/
def Shape.walks (facing : Option Direction) : Shape → Bool
  | lines directions _ => !directions.isEmpty
  | crossLine _ | line _ | cone _ => facing.isSome
  | empty | everywhere | custom _ _ | band _ => false

/-- No walk fits on a grid with more than `2 ^ 30` cells a side, however few steps it takes. -/
theorem Shape.not_fits_of_lt_side {grid : Grid} (hside : 0x40000000 < grid.side) (shape : Shape)
    {facing : Option Direction} (hwalks : shape.walks facing = true) (anchor : Cell) :
    ¬ shape.Fits grid anchor facing := by
  have hlimit : ∀ {walked : List Cell}, ¬ grid.WalkFits walked := by
    intro walked hfits
    have hle := hfits.1
    unfold Grid.walkLimit at hle
    omega
  cases shape with
  | empty => cases hwalks
  | everywhere => cases hwalks
  | custom offsets turning => cases hwalks
  | band b => cases hwalks
  | lines directions b =>
    cases directions with
    | nil => cases hwalks
    | cons d directions => exact fun h => hlimit (h d List.mem_cons_self)
  | crossLine b =>
    obtain ⟨d, rfl⟩ := Option.isSome_iff_exists.1 hwalks
    exact fun h => hlimit (h d rfl)
  | line b =>
    obtain ⟨d, rfl⟩ := Option.isSome_iff_exists.1 hwalks
    exact fun h => hlimit (h d rfl)
  | cone b =>
    obtain ⟨d, rfl⟩ := Option.isSome_iff_exists.1 hwalks
    exact fun h => hlimit (h d rfl)

/-- An area around a cell of the grid is the plain one if it is computed, and it is computed on a
grid of moderate size. -/
theorem Area.checkedCells_refines (a : Area) {grid : Grid} {anchor : Cell} {S : Prop}
    (hS : S → grid.side ≤ 0x10000000 ∧ grid.contains anchor = true) (facing : Option Direction) :
    (a.checkedCells grid anchor facing).Refines (a.cells grid anchor facing) S := by
  refine (a.checkedCells_exactly grid anchor facing).refines fun hs => ?_
  obtain ⟨hside, hanchor⟩ := hS hs
  exact a.shape.fits_of_side_le (by omega) hanchor facing

end Reticle
