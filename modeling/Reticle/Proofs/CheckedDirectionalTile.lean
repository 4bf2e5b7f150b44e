import Reticle.Proofs.CheckedAnswers
import Reticle.Proofs.DirectionalTile

/-!
# Directions and crosses in 32 bits

A directional rule and the tile rule that says the same agree in 32 bits too: once both scenarios are
built, a query of the one computes the same as the query of the other, and if one of them overflows
so does the other. But only the directional scenario walks its lanes when it is built. On a grid with
more than `2 ^ 30` cells a side it is not built at all, while the tile rule still answers.
-/

namespace Reticle

open Checked

/-- A condition that holds adds nothing to a question. -/
theorem Checked.and_ok_true (x : Checked Bool) : (x <&&> .ok true) = x := by
  rcases x with _ | (_ | _) <;> rfl

namespace Directional.Matches

variable {s : Directional} {t : Tile} {directions : List Direction} {b : Bounds}
  (h : s.Matches t directions b) (board : Board) {c : Cell}
include h

/-- A cell that is not in range lies on no lane. -/
theorem not_mem_selection (hc : ¬ (t.grid.contains c = true ∧
    t.range.contains t.grid.center c = true)) : ∀ lane ∈ s.lanes, c ∉ lane.selection := by
  intro lane hlane hmem
  rw [h.lanes] at hlane
  obtain ⟨d, hd, rfl⟩ := List.mem_map.1 hlane
  rw [h.range, Grid.contains_lines_iff h.hasStep] at hc
  exact hc ⟨d, hd, hmem⟩

/-- A cell in range lies on a lane, and every lane with it goes in its direction. -/
theorem exists_find?_selection (hc : t.grid.contains c = true ∧
    t.range.contains t.grid.center c = true) :
    ∃ lane, s.lanes.find? (·.selection.contains c) = some lane ∧
      t.grid.center.directionTo c = some lane.direction := by
  rw [h.range, Grid.contains_lines_iff h.hasStep] at hc
  obtain ⟨d, hd, hmem⟩ := hc
  have hfound : (s.lanes.find? (·.selection.contains c)).isSome = true := by
    rw [List.find?_isSome, h.lanes]
    exact ⟨_, List.mem_map_of_mem hd, List.contains_iff_mem.2 hmem⟩
  obtain ⟨lane, hlane⟩ := Option.isSome_iff_exists.1 hfound
  refine ⟨lane, hlane, ?_⟩
  have hlies : lane.selection.contains c = true :=
    List.find?_some (p := fun lane : Lane => lane.selection.contains c) hlane
  have hlanes := List.mem_of_find?_eq_some hlane
  rw [h.lanes] at hlanes
  obtain ⟨e, -, rfl⟩ := List.mem_map.1 hlanes
  exact Grid.directionTo_of_mem_line h.hasStep (List.contains_iff_mem.1 hlies)

/-- What a tile rule asks of a cell in range is a clear path. -/
theorem checkedIsOrigin_eq (hc : t.grid.contains c = true ∧
    t.range.contains t.grid.center c = true) :
    t.checkedIsOrigin board c = board.checkedPathClear c := by
  obtain ⟨hin, hrange⟩ := hc
  have hline : requiresLine t.restrictions = true :=
    Bool.or_eq_true_iff.2 (.inl (List.contains_iff_mem.2 h.sight))
  have habsent : ∀ restriction ∉ [Restriction.lineOfSight, .straightShot, .mustMove],
      t.restrictions.contains restriction = false := by
    intro restriction hother
    rw [← Bool.not_eq_true, List.contains_iff_mem]
    exact fun hmem => hother (h.others restriction hmem)
  have hmoves : (c == t.grid.center) = false := by
    refine beq_eq_false_iff_ne.2 ?_
    rintro rfl
    rw [h.range, TileRange.contains_lines_center h.hasStep] at hrange
    exact Bool.false_ne_true hrange
  unfold Tile.checkedIsOrigin
  dsimp only
  rw [t.range.checkedContains_eq (Grid.manhattan_center_le hin), hline,
    habsent .fitTwoByTwo (by simp), habsent .mustBeMoveable (by simp), hin, hrange, hmoves,
    Bool.and_false]
  exact Checked.and_ok_true (board.checkedPathClear c)

/-- A cell in range is selected on its lane, if its path is clear. -/
theorem checkedHit?_eq {lane : Lane} (hin : t.grid.contains c = true)
    (hlane : s.lanes.find? (·.selection.contains c) = some lane) :
    s.checkedHit? board c = do
      let clear ← board.checkedPathClear c
      return if clear = true then some (.selected lane) else none := by
  unfold Directional.checkedHit?
  rw [h.grid, if_pos hin, h.area]
  dsimp only
  rw [hlane]

/-- No path is looked at for other cells. -/
theorem checkedHit?_eq_none (hc : ¬ (t.grid.contains c = true ∧
    t.range.contains t.grid.center c = true)) : s.checkedHit? board c = .ok none := by
  have hnone : s.lanes.find? (·.selection.contains c) = none := by
    rw [List.find?_eq_none]
    exact fun lane hlane hlies => h.not_mem_selection hc lane hlane (List.contains_iff_mem.1 hlies)
  unfold Directional.checkedHit?
  rw [h.area]
  dsimp only
  rw [hnone]
  split <;> rfl

/-- Both scenarios compute the same answers on every board, and overflow together. -/
theorem checked_answers_eq (c : Cell) :
    s.checkedIsTargetable board c = (CheckedTile.of t board).isTargetable c ∧
      s.checkedAreaCells board c = (CheckedTile.of t board).areaCells c := by
  have hnearest : (CheckedTile.of t board).nearest = .ok [] := by
    unfold CheckedTile.of
    rw [h.origins]
    rfl
  unfold Directional.checkedIsTargetable Directional.checkedAreaCells CheckedTile.isTargetable
    CheckedTile.areaCells
  rw [hnearest, h.area]
  change _ = (do if ← t.checkedIsOrigin board c then return true else return false) ∧
    _ = (do if ← t.checkedIsOrigin board c then t.checkedAreaFrom c else return [])
  by_cases hc : t.grid.contains c = true ∧ t.range.contains t.grid.center c = true
  · obtain ⟨lane, hlane, hto⟩ := h.exists_find?_selection hc
    have harea : t.checkedAreaFrom c = t.area.checkedCells t.grid c (some lane.direction) := by
      rw [t.checkedAreaFrom_eq hc.1, hto]
    rw [h.checkedHit?_eq board hc.1 hlane, h.checkedIsOrigin_eq board hc, harea, h.grid]
    rcases board.checkedPathClear c with _ | (_ | _) <;> exact ⟨rfl, rfl⟩
  · rw [h.checkedHit?_eq_none board hc, t.checkedIsOrigin_eq_false board hc]
    exact ⟨rfl, rfl⟩

end Directional.Matches

/-! ## Two rules -/

/-- Selecting along directions agrees with the tile rule that says the same. The tile rule can
always be shown. The directional rule can be shown exactly if its lanes fit, which they do while
five times the side is a 32-bit number, and otherwise building it overflows, as it does on every grid
with more than `2 ^ 30` cells a side. Once it is shown, both rules answer the same about every cell on
every board, in 32 bits and with numbers of any size, and overflow together. -/
theorem Rule.directional_agrees_with_tile {given : Sliders} {r t : Rule}
    (h : Rule.Counterparts given r t) (grid : Grid) {s s' : Sliders} (hs : s.SameValues given)
    (hs' : s'.SameValues given) {options : RenderOptions} (hdash : options.dash = false)
    (options' : RenderOptions) :
    ∃ (mode : TargetMode) (b : Bounds) (rendered rendered' : Rendered) (after after' : Sliders),
      r.targetMode = .ok mode ∧
      r.numberIn given "min_range" = some b.min ∧ r.numberIn given "max_range" = some b.max ∧
      t.checkedRender grid s' options' = .ok (.ok rendered', after') ∧
      (r.checkedRender grid s options).Exactly (.ok rendered, after)
        (∀ d ∈ mode.directions, (Shape.line b).Fits grid grid.center (some d)) ∧
      (5 * grid.side ≤ 0x7FFFFFFF →
        r.checkedRender grid s options = .ok (.ok rendered, after)) ∧
      (0x40000000 < grid.side → r.checkedRender grid s options = .error .overflow) ∧
      ∀ board c,
        rendered.scenario.checkedIsTargetable board c =
          rendered'.scenario.checkedIsTargetable board c ∧
        rendered.scenario.checkedAreaCells board c = rendered'.scenario.checkedAreaCells board c ∧
        rendered.scenario.isTargetable board c = rendered'.scenario.isTargetable board c ∧
        rendered.scenario.areaCells board c = rendered'.scenario.areaCells board c := by
  obtain ⟨mode, b, hmode, hdirection, hmin, hmax, hselection, hmatches⟩ :=
    h.exists_matches grid hs hs'
  obtain ⟨rendered, hrendered, hscenario⟩ := Rule.render_of_mode hmode grid s options
  obtain ⟨rendered', hrendered', hscenario'⟩ := Rule.render_of_mode h.tile grid s' options'
  -- What the two rules are built as.
  have hexactly := Rule.checkedRender_exactly_of_direction hmode hdirection grid s hdash
  have htile := Rule.checkedRender_of_tile h.tile grid s' options'
  have hfits : Directional.LanesFit (Aiming.read r ⟨s, []⟩).1 mode grid ↔
      ∀ d ∈ mode.directions, (Shape.line b).Fits grid grid.center (some d) := by
    have harea : Directional.areaOf (Aiming.read r ⟨s, []⟩).1 = .placed _ := hmatches.area
    unfold Directional.LanesFit Directional.LaneFits
    rw [hselection, harea]
    simp only [reduceCtorEq, false_imp_iff, implies_true, and_true]
  have hdirectional : rendered.scenario =
      .directional (.ofAiming (Aiming.read r ⟨s, []⟩).1 mode grid) := by
    rw [hscenario, hdash]
    rcases hdirection with rfl | rfl <;> rfl
  have hother : rendered'.scenario = .tile (Tile.read grid t ⟨s', []⟩).1 := hscenario'
  have hpair : r.render grid s options = (.ok rendered, (r.render grid s options).2) := by
    rw [← hrendered]
  have hpair' : t.render grid s' options' = (.ok rendered', (t.render grid s' options').2) := by
    rw [← hrendered']
  rw [hpair] at hexactly
  rw [hpair'] at htile
  refine ⟨mode, b, rendered, rendered', _, _, hmode, hmin, hmax, htile, hexactly.congr hfits, ?_, ?_,
    fun board c => ?_⟩
  · exact fun hside => hexactly.ok (Directional.lanesFit_of_side_le hside _ mode)
  · exact fun hside => hexactly.overflow (Directional.not_lanesFit_of_lt_side hside _ hdirection)
  · rw [hdirectional, hother]
    obtain ⟨htarget, hcells⟩ := hmatches.checked_answers_eq board c
    obtain ⟨htarget', hcells'⟩ := hmatches.answers_eq board c
    exact ⟨htarget, hcells, htarget', hcells'⟩

/-- A directional rule of one or two steps, with an area. -/
def Rule.exampleDirectional (area : List Field) : Rule :=
  ⟨[], [⟨"target_mode", 0, "direction"⟩, ⟨"min_range", 1, "1"⟩, ⟨"max_range", 2, "2"⟩] ++ area,
    none⟩

/-- The tile rule that says the same. -/
def Rule.exampleTile (area : List Field) : Rule :=
  ⟨[], [⟨"target_mode", 0, "tile"⟩, ⟨"range_mode", 1, "cross"⟩,
    ⟨"restrictions", 2, "[must_have_line_of_sight]"⟩, ⟨"min_range", 3, "1"⟩,
    ⟨"max_range", 4, "2"⟩] ++ area, none⟩

/-- No area but the chosen cell. -/
def Rule.singleArea : List Field :=
  [⟨"aoe_mode", 5, "standard"⟩]

/-- A line of three cells across. -/
def Rule.crossingArea : List Field :=
  [⟨"aoe_mode", 5, "perpline"⟩, ⟨"max_aoe", 6, "1"⟩]

/-- Both pairs of example rules are counterparts, whichever area they have. -/
theorem Rule.counterparts_example {area : List Field}
    (h : area = singleArea ∨ area = crossingArea) :
    Counterparts .empty (exampleDirectional area) (exampleTile area) := by
  have hstep : Bounds.HasStep ⟨1, 2⟩ := ⟨by decide +kernel, 2, by decide +kernel⟩
  refine ⟨⟨.direction, .cross, ?_, rfl, ?_⟩, ?_, ?_, ?_, ?_, ?_, 1, 2, ?_, ?_, hstep⟩
  · rcases h with rfl | rfl <;> decide +kernel
  · rcases h with rfl | rfl <;> decide +kernel
  · rcases h with rfl | rfl <;> decide +kernel
  · rcases h with rfl | rfl <;> decide +kernel
  · rcases h with rfl | rfl <;> decide +kernel
  · rcases h with rfl | rfl
    · exact ⟨.standard, by decide, by decide +kernel⟩
    · exact ⟨.perpendicular, by decide, by decide +kernel⟩
  · have hnone : (exampleDirectional area).firstNumberIn .empty splashKeys = none := by
      rcases h with rfl | rfl <;> decide +kernel
    rw [hnone]
    exact fun radius h => absurd h (by simp)
  · rcases h with rfl | rfl <;> decide +kernel
  · rcases h with rfl | rfl <;> decide +kernel

/-- The two rules with a crossing area answer the same. -/
theorem Rule.directional_agrees_with_tile_example :
    ∃ rendered rendered' after after',
      (exampleDirectional crossingArea).checkedRender (.ofSide 7) .empty .standard =
        .ok (.ok rendered, after) ∧
      (exampleTile crossingArea).checkedRender (.ofSide 7) .empty .standard =
        .ok (.ok rendered', after') ∧ ∀ board c,
        rendered.scenario.checkedIsTargetable board c =
          rendered'.scenario.checkedIsTargetable board c ∧
        rendered.scenario.checkedAreaCells board c =
          rendered'.scenario.checkedAreaCells board c := by
  have hsame := Sliders.SameValues.refl .empty
  have hdash : RenderOptions.standard.dash = false := rfl
  obtain ⟨mode, b, rendered, rendered', after, after', -, -, -, htile, -, hgiven, -, hanswers⟩ :=
    directional_agrees_with_tile (counterparts_example (.inr rfl)) (.ofSide 7) hsame hsame hdash
      .standard
  refine ⟨rendered, rendered', after, after', hgiven (by decide), htile, fun board c => ?_⟩
  exact ⟨(hanswers board c).1, (hanswers board c).2.1⟩

/-- On a grid with more than `2 ^ 30` cells a side the tile rule has targets and the directional rule
is not built. -/
theorem Rule.directional_overflows_on_wide_grid :
    Counterparts .empty (exampleDirectional singleArea) (exampleTile singleArea) ∧
      (exampleDirectional singleArea).checkedRender (.ofSide 1073741825) .empty .standard =
        .error .overflow ∧
      ∃ rendered after, (exampleTile singleArea).checkedRender (.ofSide 1073741825) .empty
          .standard = .ok (.ok rendered, after) ∧
        rendered.scenario.checkedIsTargetable (.empty (.ofSide 1073741825)) ⟨536870912, 536870913⟩ =
          .ok true := by
  have hcounterparts := counterparts_example (.inl rfl)
  obtain ⟨mode, -, hmode, hdirection, -⟩ :=
    hcounterparts.exists_matches (.ofSide 1073741825) (.refl .empty) (.refl .empty)
  obtain ⟨rendered, hrendered, hscenario⟩ :=
    Rule.render_of_mode hcounterparts.tile (.ofSide 1073741825) .empty .standard
  refine ⟨hcounterparts, ?_, rendered, ((exampleTile singleArea).render
    (.ofSide 1073741825) .empty .standard).2, ?_, ?_⟩
  · exact (Rule.checkedRender_exactly_of_direction hmode hdirection _ _ rfl).overflow
      (Directional.not_lanesFit_of_lt_side (by decide) _ hdirection)
  · rw [Rule.checkedRender_of_tile hcounterparts.tile, ← hrendered]
  · rw [hscenario]
    decide +kernel

end Reticle
