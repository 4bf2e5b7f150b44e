import Reticle.Proofs.DefinedValues
import Reticle.Proofs.FewerTargets

/-!
# Bands of steps

A cross range is banded by steps from the actor, and the actor's cell counts as no step. Off that
cell the minimum is raised to one, which changes nothing for steps of at least one, so a cell is in
range if it lies a step within the bounds along one of the directions. The actor's cell is not
compared with the bounds: it is in range exactly if the minimum is zero. A negative minimum or one
between zero and one therefore leaves it out, and a maximum below the minimum does not.
-/

namespace Reticle

/-! ## A minimum of one at least -/

namespace Number

/-- What lies below one is no more than any step. -/
theorem Extended.isAtMost_of_isBelow_one {e : Extended} (he : e.isBelow (.finite 1) = true)
    {k : Int} (hk : 1 ≤ k) : e.isAtMost k = true := by
  cases e with
  | undefined => cases he
  | bottom => rfl
  | finite q =>
    have hq : q < 1 := of_decide_eq_true he
    have hone : (1 : Rat) ≤ k := by exact_mod_cast hk
    exact decide_eq_true (hq.le.trans hone)
  | top => cases he

/-- From one on, a number is at most a step exactly if the larger of it and one is. -/
theorem isAtMost_larger_one {x : Float} (hx : exact x ≠ .undefined) {k : Int} (hk : 1 ≤ k) :
    (exact (larger x 1)).isAtMost k = (exact x).isAtMost k := by
  unfold larger
  split
  · next hraised =>
    have hbelow : (exact x).isBelow (exact 1) = true := hraised.resolve_left hx
    rw [exact_one] at hbelow ⊢
    rw [Extended.isAtMost_of_isBelow_one hbelow hk]
    have hone : (1 : Rat) ≤ k := by exact_mod_cast hk
    exact decide_eq_true hone
  · rfl

end Number

/-- Raising the minimum to one makes no difference to steps. -/
theorem TileRange.within_larger_one {b : Bounds} (hb : Number.exact b.min ≠ .undefined) {k : Int}
    (hk : 1 ≤ k) : within k ⟨Number.larger b.min 1, b.max⟩ = within k b := by
  unfold within
  rw [Number.isAtMost_larger_one hb hk]

/-! ## Cells on the lines -/

/-- A cell that lies a number of steps within the bounds, but no fewer than `least`, from the centre
along one of the directions. -/
def Grid.OnSteps (g : Grid) (directions : List Direction) (b : Bounds) (least : Int) (c : Cell) :
    Prop :=
  ∃ d ∈ directions, ∃ k : Int, least ≤ k ∧ TileRange.within k b = true ∧ c = g.center.step d k

/-- Any other cell is at least one king move away. -/
theorem Cell.one_le_chebyshev {c e : Cell} (h : e ≠ c) : 1 ≤ e.chebyshev c := by
  obtain ⟨row, col⟩ := c
  obtain ⟨row', col'⟩ := e
  have hapart : row' ≠ row ∨ col' ≠ col := by
    by_contra hsame
    push Not at hsame
    exact h (by rw [hsame.1, hsame.2])
  unfold chebyshev
  dsimp only
  omega

/-- A step leads to another cell. -/
theorem Cell.step_ne {c : Cell} {d : Direction} {k : Int} (hk : 1 ≤ k) : c.step d k ≠ c := by
  intro hself
  have hto := c.directionTo_step d (k := k) (by omega)
  rw [hself, directionTo_self] at hto
  cases hto

namespace TileRange

variable {g : Grid} {directions : List Direction} {b : Bounds} {c : Cell}

/-- Off the centre a line range holds the cells on its steps, whatever the sign of its minimum. -/
theorem contains_lines_iff_of_ne (hb : Number.exact b.min ≠ .undefined) (hc : c ≠ g.center) :
    (lines directions b).contains g.center c = true ↔ g.OnSteps directions b 1 c := by
  have hone := Cell.one_le_chebyshev hc
  rw [contains_lines_of_ne hc, within_larger_one hb hone]
  constructor
  · rintro ⟨hline, ⟨d, hd, hto⟩, hwithin⟩
    exact ⟨d, hd, _, hone, hwithin, Cell.eq_step_of_directionTo hto hline⟩
  · rintro ⟨d, hd, k, hk, hwithin, rfl⟩
    refine ⟨Cell.step_on_line _ d k, ⟨d, hd, Cell.directionTo_step _ d (by omega)⟩, ?_⟩
    rw [Cell.chebyshev_step _ d (by omega)]
    exact hwithin

/-- A cell is in a cross range if it lies on its lines, or is the centre and the minimum is zero. -/
theorem contains_lines_iff (hb : Number.exact b.min ≠ .undefined) :
    (lines directions b).contains g.center c = true ↔
      c = g.center ∧ Number.isZero b.min = true ∨ g.OnSteps directions b 1 c := by
  by_cases hc : c = g.center
  · have hoff : ¬ g.OnSteps directions b 1 c := by
      rintro ⟨d, -, k, hk, -, hstep⟩
      exact Cell.step_ne hk (hstep.symm.trans hc)
    have hcenter : (lines directions b).contains g.center c = Number.isZero b.min := if_pos hc
    rw [hcenter, or_iff_left hoff, and_iff_right hc]
  · rw [contains_lines_iff_of_ne hb hc, or_iff_right fun h => hc h.1]

end TileRange

/-! ## Targets -/

/-- Without restrictions, and if no area is shown, the targets are the cells of the grid in
range. -/
theorem Tile.isTargetable_of_unrestricted {t : Tile} (hfree : t.restrictions = [])
    (hplain : t.includesArea = false) {board : Board} {c : Cell} :
    (TileSurvey.of t board).isTargetable c = true ↔
      t.grid.contains c = true ∧ t.range.contains t.grid.center c = true := by
  rw [isTargetable_iff, hplain]
  unfold isOrigin
  rw [hfree]
  simp

/-- A tile rule with a cross range along the directions, within the bounds, that neither restricts
its targets nor shows what areas reach. -/
structure Rule.Crosses (rule : Rule) (given : Sliders) (directions : List Direction) (b : Bounds) :
    Prop where
  tile : rule.targetMode = .ok .tile
  lines : ∃ mode, rule.keywordIn RangeMode.ofName? "range_mode" = some mode ∧
    mode.lineDirections? = some directions
  unrestricted : rule.restrictions = []
  plain : rule.flag "range_display_include_aoe" = false
  min : rule.numberIn given "min_range" = some b.min
  max : rule.numberIn given "max_range" = some b.max

namespace Rule

/-- No field of a rule is read as a nan. -/
theorem exact_numberIn_ne_undefined {rule : Rule} {given : Sliders} {key : String} {x : Float}
    (h : rule.numberIn given key = some x) : Number.exact x ≠ .undefined := by
  obtain ⟨raw, -, hvalue⟩ := Option.bind_eq_some_iff.1 h
  exact Formula.exact_numberFrom_ne_undefined hvalue

/-- A rule with a cross range has the range that its fields describe. -/
theorem Crosses.tileRangeIn_eq {rule : Rule} {given : Sliders} {directions : List Direction}
    {b : Bounds} (h : rule.Crosses given directions b) (grid : Grid) :
    rule.tileRangeIn given grid = .lines directions b := by
  obtain ⟨mode, hmode, hlines⟩ := h.lines
  unfold tileRangeIn
  rw [h.min, h.max, hmode]
  cases mode with
  | standard => cases hlines
  | square => cases hlines
  | custom => cases hlines
  | cross =>
    cases hlines
    rfl
  | diagonalCross =>
    cases hlines
    rfl
  | eightCross =>
    cases hlines
    rfl

/-- A rule with a cross range can be shown, and on every board its targets are the cells of the grid
that lie a whole number of steps, one at least and within the bounds, along a direction of the
range, and the centre exactly if the minimum is zero. -/
theorem Crosses.banded_by_steps {rule : Rule} {given : Sliders} {directions : List Direction}
    {b : Bounds} (h : rule.Crosses given directions b) (grid : Grid) (options : RenderOptions) :
    ∃ rendered, (rule.render grid given options).1 = .ok rendered ∧ ∀ board c,
      rendered.scenario.isTargetable board c = true ↔ grid.contains c = true ∧
        (c = grid.center ∧ Number.isZero b.min = true ∨ grid.OnSteps directions b 1 c) := by
  obtain ⟨rendered, t, hrendered, hscenario, ht⟩ := exists_render_tile h.tile grid given options
  refine ⟨rendered, hrendered, fun board c => ?_⟩
  have hplain := ht.includesArea_eq
  rw [h.plain, Bool.false_and] at hplain
  have htarget : rendered.scenario.isTargetable board c =
      (TileSurvey.of t board).isTargetable c := by
    rw [hscenario]
    rfl
  rw [htarget, Tile.isTargetable_of_unrestricted (ht.restrictions_eq.trans h.unrestricted) hplain,
    ht.grid_eq, ht.range_eq, h.tileRangeIn_eq,
    TileRange.contains_lines_iff (exact_numberIn_ne_undefined h.min)]

/-- A rule with an orthogonal cross range and the given bounds, as they are written. -/
def exampleCross (min max : String) : Rule :=
  ⟨[], [⟨"target_mode", 0, "tile"⟩, ⟨"range_mode", 1, "cross"⟩, ⟨"min_range", 2, min⟩,
    ⟨"max_range", 3, max⟩], none⟩

/-- A range from zero to below zero has the centre for its only target. From a half to two and a half
there are two steps: the second is a target, but neither the third nor the centre is one. -/
theorem Crosses.banded_by_steps_example :
    (∃ rendered, ((exampleCross "0" "-1").render (.ofSide 3) .empty .standard).1 = .ok rendered ∧
      ∀ board c, rendered.scenario.isTargetable board c = true ↔
        (Grid.ofSide 3).contains c = true ∧ (c = (Grid.ofSide 3).center ∧ Number.isZero 0 = true ∨
          (Grid.ofSide 3).OnSteps Direction.cardinals ⟨0, -1⟩ 1 c)) ∧
    ∃ rendered, ((exampleCross "0.5" "2.5").render (.ofSide 7) .empty .standard).1 = .ok rendered ∧
      ∀ board, rendered.scenario.isTargetable board ⟨3, 5⟩ = true ∧
        rendered.scenario.isTargetable board ⟨3, 6⟩ = false ∧
        rendered.scenario.isTargetable board (Grid.ofSide 7).center = false := by
  constructor
  · have h : (exampleCross "0" "-1").Crosses .empty Direction.cardinals ⟨0, -1⟩ :=
      ⟨by decide +kernel, ⟨.cross, by decide +kernel, rfl⟩, by decide +kernel, by decide +kernel,
        by decide +kernel, by decide +kernel⟩
    exact h.banded_by_steps (.ofSide 3) .standard
  · have h : (exampleCross "0.5" "2.5").Crosses .empty Direction.cardinals ⟨0.5, 2.5⟩ :=
      ⟨by decide +kernel, ⟨.cross, by decide +kernel, rfl⟩, by decide +kernel, by decide +kernel,
        by decide +kernel, by decide +kernel⟩
    obtain ⟨rendered, hrendered, htargets⟩ := h.banded_by_steps (.ofSide 7) .standard
    have hcenter : (Grid.ofSide 7).center = ⟨3, 3⟩ := by decide
    have hzero : Number.isZero 0.5 = false := by decide +kernel
    refine ⟨rendered, hrendered, fun board => ⟨?_, ?_, ?_⟩⟩
    · exact (htargets board ⟨3, 5⟩).2
        ⟨by decide, .inr ⟨.east, by decide, 2, by decide, by decide +kernel, by decide⟩⟩
    · rw [Bool.eq_false_iff, Ne, htargets]
      rintro ⟨-, ⟨hfar, -⟩ | ⟨d, -, k, hk, hwithin, hstep⟩⟩
      · exact absurd hfar (by decide)
      · have hthird : k = 3 := by
          rw [hcenter] at hstep
          obtain ⟨hrow, hcol⟩ := Cell.mk.inj hstep
          cases d <;> simp only [Direction.row, Direction.col] at hrow hcol <;> omega
        subst hthird
        have hbeyond : TileRange.within 3 ⟨0.5, 2.5⟩ = false := by decide +kernel
        exact Bool.false_ne_true (hbeyond.symm.trans hwithin)
    · rw [Bool.eq_false_iff, Ne, htargets]
      rintro ⟨-, ⟨-, hmin⟩ | ⟨d, -, k, hk, -, hstep⟩⟩
      · exact Bool.false_ne_true (hzero.symm.trans hmin)
      · exact Cell.step_ne hk hstep.symm

/-- The centre is not banded: from below zero on, it is no step along a direction within the bounds
and yet no target. -/
theorem Crosses.center_not_banded :
    ¬ ∀ (rule : Rule) (given : Sliders) (directions : List Direction) (b : Bounds),
      rule.Crosses given directions b → ∀ (grid : Grid) (options : RenderOptions) (rendered),
        (rule.render grid given options).1 = .ok rendered → ∀ board c,
          rendered.scenario.isTargetable board c = true ↔
            grid.contains c = true ∧ grid.OnSteps directions b 0 c := by
  intro hbanded
  let grid : Grid := .ofSide 3
  have h : (exampleCross "-1" "1").Crosses .empty Direction.cardinals ⟨-1, 1⟩ :=
    ⟨by decide +kernel, ⟨.cross, by decide +kernel, rfl⟩, by decide +kernel, by decide +kernel,
      by decide +kernel, by decide +kernel⟩
  obtain ⟨rendered, hrendered, hscenario⟩ := render_of_mode h.tile grid .empty .standard
  have hstep : grid.OnSteps Direction.cardinals ⟨-1, 1⟩ 0 grid.center :=
    ⟨.east, by decide, 0, le_rfl, by decide +kernel, (Cell.step_zero _ _).symm⟩
  have htarget := (hbanded _ _ _ _ h grid _ _ hrendered (.empty grid) grid.center).2
    ⟨grid.contains_center, hstep⟩
  have hcenter : ((Scenario.read .tile grid false (exampleCross "-1" "1") ⟨.empty, []⟩).1
      ).isTargetable (.empty grid) grid.center = false := by
    decide +kernel
  rw [hscenario] at htarget
  exact Bool.false_ne_true (hcenter.symm.trans htarget)

end Rule

end Reticle
