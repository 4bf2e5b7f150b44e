import Reticle.Proofs.CheckedBuilding

/-!
# Answers in 32 bits

The two queries of every rule that can be shown. What they come to are the answers of the plain
queries, so it is well formed (`checkedRender_answers_well_formed`). On grids of at most `2 ^ 28`
cells a side they come to an answer for every 32-bit cell (`render_queries_fit`), but for the area
of a cell so far below the grid that its displacement from a dashing actor overflows: there the dash
gives no answer, where every other rule says that the cell has no area (`dash_query_overflows`).
-/

namespace Reticle

open Checked

variable {text : String} {grid : Grid} {sliders after : Sliders} {options : RenderOptions}
  {rendered : Rendered}

/-! ## All scenarios -/

/-- The range of a dash never allows fewer than no steps. -/
theorem Dash.maxSteps_nonneg_of_render
    (h : render text grid sliders options = (.ready rendered, after)) {s : Dash}
    (hs : rendered.scenario = .dash s) : 0 ≤ s.maxSteps := by
  rw [Dash.maxSteps_of_render h hs]
  exact le_max_left _ _

/-- What is rendered in 32 bits is what is rendered. -/
theorem render_of_checkedRender
    (h : checkedRender text grid sliders options = .ok (.ready rendered, after)) :
    render text grid sliders options = (.ready rendered, after) :=
  ((checkedRender_refines (S := False) False.elim text sliders options).agrees _ h).symm

section

variable (h : render text grid sliders options = (.ready rendered, after)) (board : Board)
  {S : Prop} (hS : S → grid.side ≤ 0x10000000 ∧ board.grid.side ≤ 0x10000000)
include h hS

/-- Whether a cell is a target is found out on every grid of moderate size. -/
theorem checkedIsTargetable_refines_of_render (c : Cell) :
    (rendered.scenario.checkedIsTargetable board c).Refines
      (rendered.scenario.isTargetable board c) S := by
  have hbuilt := built_of_render h
  cases hscenario : rendered.scenario with
  | selfCast s => exact .of_ok _ S
  | tile t =>
    rw [hscenario] at hbuilt
    obtain ⟨rfl, -⟩ := hbuilt
    exact CheckedTile.isTargetable_refines t board c hS
  | directional s =>
    rw [hscenario] at hbuilt
    obtain ⟨rfl, -, hregular⟩ := hbuilt
    exact Directional.checkedIsTargetable_refines hregular hS c
  | dash s =>
    have hsteps := Dash.maxSteps_nonneg_of_render h hscenario
    rw [hscenario] at hbuilt
    obtain ⟨rfl, -⟩ := hbuilt
    refine (CheckedDash.isTargetable_exactly hsteps board c).refines fun hs => ?_
    exact Dash.areasFit_of_side_le (by have hside := (hS hs).1; omega) board

/-- So is the area of a cell, unless a dash is asked for a cell that lies too far away. -/
theorem checkedAreaCells_refines_of_render {c : Cell} (hc : c.IsAddress)
    (hnear : S → ¬ (rendered.scenario.isDash = true ∧ grid.LiesBeyond c)) :
    (rendered.scenario.checkedAreaCells board c).Refines
      (rendered.scenario.areaCells board c) S := by
  have hbuilt := built_of_render h
  cases hscenario : rendered.scenario with
  | selfCast s =>
    rw [hscenario] at hbuilt
    obtain ⟨rfl, -⟩ := hbuilt
    exact s.checkedAreaCells_refines c fun hs => (hS hs).1
  | tile t =>
    rw [hscenario] at hbuilt
    obtain ⟨rfl, -⟩ := hbuilt
    exact CheckedTile.areaCells_refines t board c hS
  | directional s =>
    rw [hscenario] at hbuilt
    obtain ⟨rfl, -, hregular⟩ := hbuilt
    exact Directional.checkedAreaCells_refines hregular hS c
  | dash s =>
    have hsteps := Dash.maxSteps_nonneg_of_render h hscenario
    rw [hscenario] at hbuilt hnear
    obtain ⟨rfl, -⟩ := hbuilt
    refine (CheckedDash.areaCells_exactly hsteps board hc).refines fun hs => ⟨?_, ?_⟩
    · exact Dash.areasFit_of_side_le (by have hside := (hS hs).1; omega) board
    · exact fun hbeyond => hnear hs ⟨rfl, hbeyond⟩

end

/-- A dash comes to no area for a cell that lies beyond what can be computed with. -/
theorem checkedAreaCells_of_liesBeyond
    (h : render text grid sliders options = (.ready rendered, after))
    (hdash : rendered.scenario.isDash = true) (hside : grid.side ≤ 0x10000000) (board : Board)
    {c : Cell} (hc : c.IsAddress) (hbeyond : grid.LiesBeyond c) :
    rendered.scenario.checkedAreaCells board c = .error .overflow := by
  obtain ⟨s, hscenario⟩ := Scenario.exists_of_isDash hdash
  have hsteps := Dash.maxSteps_nonneg_of_render h hscenario
  have hbuilt := built_of_render h
  rw [hscenario] at hbuilt ⊢
  obtain ⟨rfl, -⟩ := hbuilt
  exact (CheckedDash.areaCells_exactly hsteps board hc).overflow fun hfits => hfits.2 hbeyond

/-! ## Rules that are shown -/

/-- A text with a target mode can be shown in 32 bits on a grid of moderate size. -/
theorem exists_checkedRender_of_targetMode (hblank : ¬ Text.isBlankText text = true)
    {mode : TargetMode} (hmode : (Rule.ofText text).targetMode = .ok mode)
    (hside : grid.side ≤ 0x10000000) (sliders : Sliders) (options : RenderOptions) :
    ∃ rendered after,
      checkedRender text grid sliders options = .ok (.ready rendered, after) ∧
        rendered.scenario = (Scenario.read mode grid options.dash (Rule.ofText text)
          ⟨sliders.forgetRequired, []⟩).1 := by
  obtain ⟨rendered, after, hready, -, hscenario⟩ :=
    exists_render_of_targetMode hblank hmode grid sliders options
  have hsmall : True → 5 * grid.side ≤ 0x7FFFFFFF := fun _ => by omega
  have hanswers := (checkedRender_refines hsmall text sliders options).answers trivial
  exact ⟨rendered, after, hready ▸ hanswers, hscenario⟩

/-- A rule whose range and area reach far beyond every grid. -/
def farReachingRule : String :=
  "target_mode direction8\nmax_range 99999999999\naoe_mode perpendicular\nmax_aoe 99999999999"

/-- A dash of up to three steps. -/
def plainDash : String :=
  "target_mode direction\nmax_range 3"

/-- The text of the plain dash is rendered to the end on the default grid, and it is a dash. -/
theorem exists_checkedRender_plainDash :
    ∃ rendered after,
      checkedRender plainDash (.ofSide 15) .empty ⟨true, []⟩ = .ok (.ready rendered, after) ∧
        rendered.scenario.isDash = true := by
  obtain ⟨hblank, hmode⟩ : ¬ Text.isBlankText plainDash = true ∧
      (Rule.ofText plainDash).targetMode = .ok .direction := by
    decide +kernel
  have hside : (Grid.ofSide 15).side ≤ 0x10000000 := by decide
  obtain ⟨rendered, after, hready, hscenario⟩ :=
    exists_checkedRender_of_targetMode hblank hmode hside .empty ⟨true, []⟩
  refine ⟨rendered, after, hready, ?_⟩
  rw [hscenario]
  decide +kernel

/-! ## Every rule that can be shown -/

/-- The queries of every rule that can be shown, on grids of moderate size and for every cell with
32-bit coordinates. All numbers on the way are 32-bit numbers and the queries come to the answers,
with one exception: when a dash is asked for the area of a cell beyond the low end of the range, the
displacement of the cell is not a 32-bit number. -/
theorem render_queries_fit
    (h : checkedRender text grid sliders options = .ok (.ready rendered, after))
    (hside : grid.side ≤ 0x10000000) {board : Board} (hboard : board.grid.side ≤ 0x10000000)
    {c : Cell} (hc : c.IsAddress) :
    rendered.scenario.checkedIsTargetable board c = .ok (rendered.scenario.isTargetable board c) ∧
      rendered.scenario.checkedAreaCells board c =
        if rendered.scenario.isDash = true ∧ grid.LiesBeyond c then .error .overflow
        else .ok (rendered.scenario.areaCells board c) := by
  have hrender := render_of_checkedRender h
  refine ⟨(checkedIsTargetable_refines_of_render hrender board (fun _ => ⟨hside, hboard⟩) c).answers
    trivial, ?_⟩
  split
  · next hfar => exact checkedAreaCells_of_liesBeyond hrender hfar.1 hside board hc hfar.2
  · next hnear =>
    exact (checkedAreaCells_refines_of_render hrender board (fun _ => ⟨hside, hboard⟩) hc
      fun _ => hnear).answers trivial

/-- The area of the cell with the most extreme coordinates is computed without a fault. -/
theorem render_queries_fit_example :
    ∃ rendered after, checkedRender farReachingRule (.ofSide 9) .empty .standard =
        .ok (.ready rendered, after) ∧
      rendered.scenario.checkedAreaCells (.empty (.ofSide 9)) ⟨-0x80000000, 0x7FFFFFFF⟩ =
        .ok (rendered.scenario.areaCells (.empty (.ofSide 9)) ⟨-0x80000000, 0x7FFFFFFF⟩) := by
  obtain ⟨hblank, hmode⟩ : ¬ Text.isBlankText farReachingRule = true ∧
      (Rule.ofText farReachingRule).targetMode = .ok .direction8 := by
    decide +kernel
  have hside : (Board.empty (.ofSide 9)).grid.side ≤ 0x10000000 := by decide
  obtain ⟨rendered, after, hready, hscenario⟩ :=
    exists_checkedRender_of_targetMode hblank hmode hside .empty .standard
  have hdash : rendered.scenario.isDash = false := by
    rw [hscenario]
    decide +kernel
  have hcell : (⟨-0x80000000, 0x7FFFFFFF⟩ : Cell).IsAddress := by decide
  obtain ⟨-, hcells⟩ := render_queries_fit hready hside hside hcell
  rw [hdash, if_neg (fun h => Bool.false_ne_true h.1)] at hcells
  exact ⟨rendered, after, hready, hcells⟩

/-- A dash computes the displacement of the lowest cell, and that overflows. -/
theorem dash_query_overflows :
    ∃ rendered after,
      checkedRender plainDash (.ofSide 15) .empty ⟨true, []⟩ = .ok (.ready rendered, after) ∧
        rendered.scenario.checkedAreaCells (.empty (.ofSide 15)) ⟨-0x80000000, 0⟩ =
          .error .overflow := by
  obtain ⟨rendered, after, hready, hdash⟩ := exists_checkedRender_plainDash
  refine ⟨rendered, after, hready, ?_⟩
  exact checkedAreaCells_of_liesBeyond (render_of_checkedRender hready) hdash (by decide) _
    (by decide) (by decide)

/-- Whatever the queries of a rule that can be shown come to is well formed: an area lists cells of
the grid and none twice, leaves out the actor's cell if the rule spares the actor, and is empty
unless the chosen cell is a target, and no cell off the grid is a target. On grids of moderate size
they do come to it, with the one exception of a dash that is asked for the area of a cell that lies
too far away. -/
theorem checkedRender_answers_well_formed
    (h : checkedRender text grid sliders options = .ok (.ready rendered, after)) (board : Board)
    {c : Cell} (hc : c.IsAddress) :
    (∀ area, rendered.scenario.checkedAreaCells board c = .ok area →
      (∀ a ∈ area, grid.contains a = true) ∧ area.Nodup ∧
        ((Rule.ofText text).flag "aoe_excludes_self" = true → grid.center ∉ area) ∧
        (rendered.scenario.checkedIsTargetable board c = .ok false → area = [])) ∧
      (grid.contains c = false → rendered.scenario.checkedIsTargetable board c ≠ .ok true) ∧
      (grid.side ≤ 0x10000000 → board.grid.side ≤ 0x10000000 →
        (∃ target, rendered.scenario.checkedIsTargetable board c = .ok target) ∧
          ((∃ area, rendered.scenario.checkedAreaCells board c = .ok area) ↔
            ¬ (rendered.scenario.isDash = true ∧ grid.LiesBeyond c))) := by
  have hrender := render_of_checkedRender h
  obtain ⟨hlists, hempty, hout⟩ := (built_of_render hrender).sound board c
  have htarget := checkedIsTargetable_refines_of_render hrender board (S := False) False.elim c
  have harea := checkedAreaCells_refines_of_render hrender board (S := False) False.elim hc
    False.elim
  refine ⟨?_, ?_, fun hside hboard => ?_⟩
  · rintro area hanswer
    obtain rfl := harea.agrees area hanswer
    refine ⟨hlists.inside, hlists.nodup, hlists.spared, fun hno => hempty ?_⟩
    exact (htarget.agrees false hno).symm
  · intro houtside hyes
    exact Bool.noConfusion ((htarget.agrees true hyes).trans (hout houtside))
  · refine ⟨⟨_, (checkedIsTargetable_refines_of_render hrender board (fun _ => ⟨hside, hboard⟩)
      c).answers trivial⟩, ?_, fun hnear => ?_⟩
    · rintro ⟨area, hanswer⟩ ⟨hdash, hbeyond⟩
      rw [checkedAreaCells_of_liesBeyond hrender hdash hside board hc hbeyond] at hanswer
      cases hanswer
    · exact ⟨_, (checkedAreaCells_refines_of_render hrender board (fun _ => ⟨hside, hboard⟩) hc
        fun _ => hnear).answers trivial⟩

/-- A rule with a splash that spares the actor. -/
def sparingSplash : String :=
  "target_mode direction\nmax_range 3\naoe_radius 1.5\naoe_excludes_self true"

/-- A cell beside the actor is a target of the rule, and its area leaves the actor's cell out. -/
theorem checkedRender_answers_well_formed_example :
    ∃ rendered after, checkedRender sparingSplash (.ofSide 7) .empty .standard =
        .ok (.ready rendered, after) ∧
      ∃ area, rendered.scenario.checkedAreaCells (.empty (.ofSide 7)) ⟨3, 4⟩ = .ok area ∧
        ⟨3, 5⟩ ∈ area ∧ (Grid.ofSide 7).center ∉ area ∧ area.Nodup := by
  obtain ⟨hblank, hmode, hflag⟩ : ¬ Text.isBlankText sparingSplash = true ∧
      (Rule.ofText sparingSplash).targetMode = .ok .direction ∧
      (Rule.ofText sparingSplash).flag "aoe_excludes_self" = true := by
    decide +kernel
  have hside : (Grid.ofSide 7).side ≤ 0x10000000 := by decide
  obtain ⟨rendered, after, hready, hscenario⟩ :=
    exists_checkedRender_of_targetMode hblank hmode hside .empty .standard
  have hanswer : ∃ area, rendered.scenario.checkedAreaCells (.empty (.ofSide 7)) ⟨3, 4⟩ =
      .ok area ∧ ⟨3, 5⟩ ∈ area := by
    rw [hscenario]
    exact ⟨[⟨2, 4⟩, ⟨3, 4⟩, ⟨3, 5⟩, ⟨4, 4⟩], by decide +kernel, by decide⟩
  obtain ⟨area, hanswer, hmem⟩ := hanswer
  obtain ⟨hformed, -, -⟩ := checkedRender_answers_well_formed hready (.empty (.ofSide 7))
    (c := ⟨3, 4⟩) (by decide)
  obtain ⟨-, hnodup, hspared, -⟩ := hformed area hanswer
  exact ⟨rendered, after, hready, area, hanswer, hmem, hspared hflag, hnodup⟩

/-- The leftmost cell is no target of a dash, but the dash gives it no empty area either. -/
theorem dash_area_not_answered :
    ∃ rendered after,
      checkedRender plainDash (.ofSide 15) .empty ⟨true, []⟩ = .ok (.ready rendered, after) ∧
        rendered.scenario.checkedIsTargetable (.empty (.ofSide 15)) ⟨0, -0x80000000⟩ =
            .ok false ∧
          rendered.scenario.checkedAreaCells (.empty (.ofSide 15)) ⟨0, -0x80000000⟩ =
            .error .overflow := by
  obtain ⟨rendered, after, hready, hdash⟩ := exists_checkedRender_plainDash
  have hrender := render_of_checkedRender hready
  have htarget := (checkedIsTargetable_refines_of_render hrender (.empty (.ofSide 15)) (S := True)
    (fun _ => by decide) ⟨0, -0x80000000⟩).answers trivial
  have hout := ((built_of_render hrender).sound (.empty (.ofSide 15))
    ⟨0, -0x80000000⟩).isTargetable_eq_false (by decide)
  refine ⟨rendered, after, hready, htarget.trans (congrArg _ hout), ?_⟩
  exact checkedAreaCells_of_liesBeyond hrender hdash (by decide) _ (by decide) (by decide)

end Reticle
