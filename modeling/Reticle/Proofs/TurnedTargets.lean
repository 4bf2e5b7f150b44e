import Reticle.Proofs.Rendering
import Reticle.Proofs.Targets
import Reticle.Proofs.TurnedAreas

/-!
# No side is preferred

Directional rules and dashes treat the directions alike: turn the obstacles by a quarter turn about
the actor, and the targets are turned with them (`render_prefers_no_side`). A lane becomes the lane
of the turned direction, with the images of its cells. The lanes are searched in an order, and that
order decides what is shown for a target, but not what is one.
-/

namespace Reticle

/-! ## Areas of directional rules -/

namespace Aiming

/-- Listed offsets, if the area consists of them, are whole and turn with the direction. -/
def Turns (a : Aiming) : Prop :=
  a.effectiveMode = .custom → a.customShape.Turns

variable {a : Aiming}

/-- The pattern of an aiming that turns is a shape that turns. -/
theorem Turns.areaOf (h : a.Turns) {shape : Shape} (hshape : Directional.areaOf a = .pattern shape) :
    shape.Turns := by
  unfold Directional.areaOf at hshape
  unfold Turns at h
  split at hshape
  · cases hshape
  · split at hshape <;> cases hshape
    · trivial
    · trivial
    · next hmode => exact h hmode
    · trivial

/-- The shape that a dash throws from its end turns, too. -/
theorem Turns.shapeOf (h : a.Turns) : (Dash.shapeOf a).Turns := by
  unfold Dash.shapeOf
  unfold Turns at h
  split
  · trivial
  · split
    · next hmode => exact h hmode
    · trivial
    · trivial
    · trivial
    · exact Shape.turns_ofMode _ _

/-- Areas that do not list offsets turn, and so do those whose offsets are whole and are to turn. -/
theorem turns_of_readFrom {given : Sliders} {rule : Rule} (hfields : a.ReadFrom given rule)
    (hlists : a.ListsFrom rule)
    (h : rule.keywordIn AreaMode.ofName? "aoe_mode" ≠ some .custom ∨
      (∀ o ∈ rule.offsets "custom_aoe", o.IsWhole) ∧ rule.flag "dont_orient_aoe" = false) :
    a.Turns := by
  intro hcustom
  have hmode : a.mode = .custom := by
    unfold effectiveMode at hcustom
    split at hcustom
    · cases hcustom
    · exact hcustom
  rcases h with h | ⟨hwhole, hflag⟩
  · rw [hfields.mode] at hmode
    cases hkeyword : rule.keywordIn AreaMode.ofName? "aoe_mode" with
    | none => rw [hkeyword] at hmode; cases hmode
    | some mode => rw [hkeyword] at hmode; exact absurd (hkeyword.trans (congrArg some hmode)) h
  · refine ⟨by rw [hlists.turning, hflag]; rfl, ?_⟩
    rw [hlists.offsets, if_pos hmode]
    exact fun o ho => Offset.isWhole_of_mem_symmetrize hwhole ho

end Aiming

/-! ## Directional rules -/

namespace Directional

variable {a : Aiming} {mode : TargetMode} {board : Board}

/-- The directions of a mode are closed under quarter turns. -/
theorem closed_directions (mode : TargetMode) : Direction.Closed mode.directions := by
  cases mode with
  | direction8 => exact Direction.closed_all
  | none | tile | direction => exact Direction.closed_cardinals

/-- A lane covers the image of a cell from the image of a source exactly if the lane that is turned
to it covers the cell from the source. -/
theorem covers_turn (ha : a.Turns) (grid : Grid) (d : Direction) (source c : Cell) :
    (ofAiming a mode grid).Covers
        (laneOf grid (selectionOf a) (areaOf a) a.sparesActor d.quarterTurn)
        (grid.turn source) (grid.turn c) ↔
      (ofAiming a mode grid).Covers (laneOf grid (selectionOf a) (areaOf a) a.sparesActor d)
        source c := by
  unfold Covers
  have hfields : (ofAiming a mode grid).area = areaOf a := rfl
  rw [hfields]
  cases harea : areaOf a with
  | splash radius =>
    dsimp only
    rw [Grid.manhattan_turn, show (ofAiming a mode grid).grid = grid from rfl,
      Grid.turn_eq_center_iff]
  | placed area => exact Grid.turn_injective.eq_iff
  | pattern shape =>
    have hturned := Area.mem_cells_turn (a := ⟨shape, a.sparesActor⟩) (ha.areaOf harea)
      grid.contains_center d (c := c)
    rwa [Grid.turn_center] at hturned

/-- Targets are turned with the obstacles. -/
theorem isTargetable_turn (ha : a.Turns) (c : Cell) :
    (DirectionalSurvey.of (ofAiming a mode board.grid) board.turn).isTargetable
        (board.grid.turn c) =
      (DirectionalSurvey.of (ofAiming a mode board.grid) board).isTargetable c := by
  let s := ofAiming a mode board.grid
  let laneIn := laneOf board.grid (selectionOf a) (areaOf a) a.sparesActor
  have hlanes : ∀ P : Lane → Prop,
      (∃ lane ∈ s.lanes, P lane) ↔ ∃ d ∈ mode.directions, P (laneIn d) := by
    intro P
    show (∃ lane ∈ mode.directions.map laneIn, P lane) ↔ _
    simp only [List.mem_map, exists_exists_and_eq_and]
  -- Lane by lane: a source is moved along with the cell, so that both stand for their images.
  have hlane : ∀ d, (∃ source ∈ (laneIn d.quarterTurn).selection,
        board.turn.pathClear source = true ∧
          s.Covers (laneIn d.quarterTurn) source (board.grid.turn c)) ↔
      ∃ source ∈ (laneIn d).selection,
        board.pathClear source = true ∧ s.Covers (laneIn d) source c := by
    intro d
    rw [← Grid.exists_turn (g := board.grid)]
    refine exists_congr fun source => and_congr ?_ (and_congr ?_ ?_)
    · have hline : board.grid.turn source ∈
            board.grid.line (board.grid.turn board.grid.center) d.quarterTurn (selectionOf a) ↔
          source ∈ board.grid.line board.grid.center d (selectionOf a) := Grid.mem_line_turn
      rwa [Grid.turn_center] at hline
    · rw [Board.pathClear_turn]
    · exact covers_turn ha board.grid d source c
  rw [Bool.eq_iff_iff, isTargetable_iff, isTargetable_iff]
  have hinside : s.grid.contains (board.grid.turn c) = s.grid.contains c := Grid.contains_turn c
  refine and_congr (by rw [hinside]) ?_
  rw [hlanes, hlanes, ← (closed_directions mode).exists_iff]
  exact exists_congr fun d => and_congr_right fun _ => hlane d

end Directional

/-! ## Dashes -/

namespace Dash

variable {s : Dash} {board : Board}

/-- The turned dash steps on the images of the cells. -/
theorem path_turn (hgrid : board.grid = s.grid) (d : Direction) :
    s.path board.turn d.quarterTurn = (s.path board d).map s.grid.turn := by
  have hwalk := Grid.map_step_turn s.grid s.grid.center d
    (wholeNumbers 1 (min s.maxSteps s.grid.side))
  rw [Grid.turn_center] at hwalk
  have hgoes : (fun c => s.grid.contains c && !board.turn.isBlocked c) ∘ s.grid.turn =
      fun c => s.grid.contains c && !board.isBlocked c := by
    funext c
    rw [Function.comp_apply, Grid.contains_turn, ← hgrid, Board.isBlocked_turn]
  unfold path
  rw [hwalk, List.takeWhile_map, hgoes]

/-- On the turned board a dash hits the turned targets. -/
theorem isTargetable_turn (hshape : s.area.shape.Turns) (hgrid : board.grid = s.grid) (c : Cell) :
    (DashSurvey.of s board.turn).isTargetable (s.grid.turn c) =
      (DashSurvey.of s board).isTargetable c := by
  have hstop : ∀ d : Direction, (s.lane board.turn d.quarterTurn).stop =
      s.grid.turn (s.lane board d).stop := by
    intro d
    show (s.path board.turn d.quarterTurn).getLastD s.grid.center = _
    conv => lhs; rw [path_turn hgrid, ← s.grid.turn_center]
    exact List.getLastD_map
  rw [Bool.eq_iff_iff, isTargetable_iff, isTargetable_iff, ← Direction.closed_cardinals.exists_iff]
  refine exists_congr fun d => and_congr_right fun _ => or_congr ?_ ?_
  · rw [path_turn hgrid, List.mem_map_of_injective Grid.turn_injective]
  · rw [hstop, Area.mem_cells_turn hshape contains_stop]

end Dash

/-- On the turned board the targets of a direction rule are the turned ones, unless it has an area
of offsets that do not turn. -/
theorem Scenario.ReadFrom.isTargetable_turn {given : Sliders} {rule : Rule} {grid : Grid}
    {mode : TargetMode} {s : Scenario} (h : s.ReadFrom given rule grid mode)
    (hmode : mode = .direction ∨ mode = .direction8)
    (hoffsets : rule.keywordIn AreaMode.ofName? "aoe_mode" ≠ some .custom ∨
      (∀ o ∈ rule.offsets "custom_aoe", o.IsWhole) ∧ rule.flag "dont_orient_aoe" = false)
    {board : Board} (hgrid : board.grid = grid) (c : Cell) :
    s.isTargetable board.turn (grid.turn c) = s.isTargetable board c := by
  subst hgrid
  obtain ⟨a, hfields, hlists, rfl | ⟨-, rfl⟩⟩ := h.aimed hmode
  · exact Directional.isTargetable_turn (Aiming.turns_of_readFrom hfields hlists hoffsets) c
  · exact Dash.isTargetable_turn (Aiming.turns_of_readFrom hfields hlists hoffsets).shapeOf rfl c

/-- Directional targeting has no preferred side. The path to the image of a cell is clear on the
turned board exactly if the path to the cell is clear; and for a rule that is aimed along directions
or played as a dash, the image is a target on the turned board exactly if the cell is one. Listed
offsets have to be whole and to turn with the direction. -/
theorem render_prefers_no_side :
    (∀ (board : Board) (c : Cell),
      board.turn.pathClear (board.grid.turn c) = board.pathClear c) ∧
    ∀ {text : String} {grid : Grid} {sliders after : Sliders} {options : RenderOptions}
      {rendered : Rendered}, render text grid sliders options = (.ready rendered, after) →
      (rendered.mode = .direction ∨ rendered.mode = .direction8) →
      ((Rule.ofText text).keywordIn AreaMode.ofName? "aoe_mode" ≠ some .custom ∨
        (∀ o ∈ (Rule.ofText text).offsets "custom_aoe", o.IsWhole) ∧
          (Rule.ofText text).flag "dont_orient_aoe" = false) →
      ∀ (board : Board) (c : Cell), board.grid = grid →
        rendered.scenario.isTargetable board.turn (grid.turn c) =
          rendered.scenario.isTargetable board c := by
  refine ⟨fun board c => Board.pathClear_turn c, ?_⟩
  intro text grid sliders after options rendered h hmode hoffsets board c hgrid
  exact (readFrom_of_render h).isTargetable_turn hmode hoffsets hgrid c

/-- A dash whose area is a hook ahead of the last cell and to its side. -/
def hookRule : String :=
  "target_mode direction\nmax_range 3\naoe_mode custom\ncustom_aoe [[1,0][1,2]]"

/-- The obstacle in front of the actor stops the dash of the hook rule, and the hook reaches a cell
to the left of it. The image of that cell is a target where the obstacle stands to the left. -/
theorem render_prefers_no_side_example :
    ∃ rendered after, render hookRule (.ofSide 7) .empty ⟨true, []⟩ = (.ready rendered, after) ∧
      rendered.scenario.isTargetable (Board.turn ⟨.ofSide 7, CellSet.empty.insert ⟨1, 3⟩⟩)
          ((Grid.ofSide 7).turn ⟨1, 1⟩) =
        rendered.scenario.isTargetable ⟨.ofSide 7, CellSet.empty.insert ⟨1, 3⟩⟩ ⟨1, 1⟩ := by
  have hblank : ¬ Text.isBlankText hookRule = true := by decide +kernel
  have hmode : (Rule.ofText hookRule).targetMode = .ok .direction := by decide +kernel
  have hflag : (Rule.ofText hookRule).flag "dont_orient_aoe" = false := by decide +kernel
  have hvalues : ((Rule.ofText hookRule).offsets "custom_aoe").map
      (fun o => (Number.exact o.row, Number.exact o.col)) =
        [(.finite 1, .finite 0), (.finite 1, .finite 2)] := by decide +kernel
  have hwhole : ∀ o ∈ (Rule.ofText hookRule).offsets "custom_aoe", o.IsWhole := by
    intro o ho
    have hvalue := List.mem_map_of_mem (f := fun o => (Number.exact o.row, Number.exact o.col)) ho
    rw [hvalues] at hvalue
    simp only [List.mem_cons, List.not_mem_nil, or_false, Prod.mk.injEq] at hvalue
    rcases hvalue with ⟨hrow, hcol⟩ | ⟨hrow, hcol⟩
    · exact ⟨1, 0, hrow, hcol⟩
    · exact ⟨1, 2, hrow, hcol⟩
  obtain ⟨rendered, after, hready, hmode', -⟩ := exists_render_of_targetMode hblank hmode
    (.ofSide 7) .empty ⟨true, []⟩
  obtain ⟨-, htargets⟩ := render_prefers_no_side
  exact ⟨rendered, after, hready,
    htargets hready (.inl hmode') (.inr ⟨hwhole, hflag⟩) ⟨.ofSide 7, _⟩ ⟨1, 1⟩ rfl⟩

end Reticle
