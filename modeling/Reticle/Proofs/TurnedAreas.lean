import Reticle.Proofs.Placing
import Reticle.Proofs.Previews
import Reticle.Proofs.Turning

/-!
# Turned areas

An area around the image of an anchor, facing in the turned direction, has the images of its cells
(`Shape.mem_cells_turn`). A pattern that is walked in steps is turned step by step; a band is turned
because distances are. Listed offsets are turned only if they turn with the facing direction and are
whole: a half is always rounded down or to the right.
-/

namespace Reticle

/-! ## Patterns -/

namespace Grid

variable {g : Grid} {c : Cell}

/-- Clipping at the edge of the grid commutes with turning. -/
theorem mem_clip_turn {cells : List Cell} :
    g.turn c ∈ g.clip (cells.map g.turn) ↔ c ∈ g.clip cells := by
  rw [mem_clip, mem_clip, contains_turn, List.mem_map_of_injective turn_injective]

variable (g) in
/-- Walking along the turned direction gives the turned walk. -/
theorem map_step_turn (origin : Cell) (d : Direction) (steps : List Int) :
    steps.map ((g.turn origin).step d.quarterTurn) = (steps.map (origin.step d)).map g.turn := by
  rw [List.map_map]
  refine List.map_congr_left fun k _ => ?_
  rw [Function.comp_apply, turn_step]

variable {origin : Cell} {d : Direction} {b : Bounds}

/-- A line from a turned origin in the turned direction is the turned line. -/
theorem mem_line_turn :
    g.turn c ∈ g.line (g.turn origin) d.quarterTurn b ↔ c ∈ g.line origin d b := by
  unfold line
  rw [map_step_turn, mem_clip_turn]

/-- Lines in directions that are closed under turning turn with their origin. -/
theorem mem_lines_turn {directions : List Direction} (h : Direction.Closed directions) :
    g.turn c ∈ g.lines (g.turn origin) directions b ↔ c ∈ g.lines origin directions b := by
  unfold lines
  simp only [List.mem_eraseDups, List.mem_flatMap]
  rw [← h.exists_iff]
  simp only [mem_line_turn]

/-- A cone from a turned origin in the turned direction is the turned cone. -/
theorem mem_cone_turn :
    g.turn c ∈ g.cone (g.turn origin) d.quarterTurn b ↔ c ∈ g.cone origin d b := by
  unfold cone
  simp only [← turn_step, map_step_turn, ← List.map_flatMap]
  exact mem_clip_turn

/-- A crossing line through a turned cell is the turned crossing line. -/
theorem mem_crossLine_turn :
    g.turn c ∈ g.crossLine (g.turn origin) (some d.quarterTurn) b ↔
      c ∈ g.crossLine origin (some d) b := by
  unfold crossLine
  dsimp only
  rw [map_step_turn, mem_clip_turn]

/-- A band around a turned cell is the turned band. -/
theorem mem_band_turn : g.turn c ∈ g.band (g.turn origin) b ↔ c ∈ g.band origin b := by
  rw [mem_band_iff, mem_band_iff, contains_turn, manhattan_turn]

end Grid

/-! ## Shapes -/

/-- Whole offsets that turn with the facing direction are turned. -/
theorem Offset.mem_place_turn {g : Grid} {anchor c : Cell} {offsets : List Offset}
    (hwhole : ∀ o ∈ offsets, o.IsWhole) (hanchor : g.contains anchor = true) (d : Direction) :
    g.turn c ∈ place g (g.turn anchor) (orient offsets (some d.quarterTurn)) ↔
      c ∈ place g anchor (orient offsets (some d)) := by
  rw [mem_place, mem_place, Grid.contains_turn]
  refine and_congr_right fun hc => ?_
  simp only [orient, List.mem_map, exists_exists_and_eq_and]
  refine exists_congr fun o => and_congr_right fun ho => ?_
  obtain ⟨rows, cols, hspans⟩ := hwhole o ho
  rw [cellFrom?_turnedTo hspans d hanchor hc,
    cellFrom?_turnedTo hspans d.quarterTurn ((g.contains_turn anchor).trans hanchor)
      ((g.contains_turn c).trans hc),
    ← Grid.turn_step, ← Grid.turn_step, Grid.turn_injective.eq_iff]

namespace Shape

/-- The shapes that turn with the direction they face. -/
def Turns : Shape → Prop
  | lines directions _ => Direction.Closed directions
  | custom offsets turning => turning = true ∧ ∀ o ∈ offsets, o.IsWhole
  | _ => True

/-- The shapes of all modes turn with the direction they face. -/
theorem turns_ofMode (mode : Option AreaMode) (bounds : Bounds) : (ofMode mode bounds).Turns := by
  unfold ofMode
  split
  · trivial
  · cases mode with
    | none => trivial
    | some mode =>
      cases mode with
      | cross => exact Direction.closed_cardinals
      | diagonalCross => exact Direction.closed_diagonals
      | eightCross => exact Direction.closed_all
      | _ => trivial

/-- A shape at a turned anchor, facing the turned direction, is the turned shape. -/
theorem mem_cells_turn {s : Shape} (hs : s.Turns) {g : Grid} {anchor : Cell}
    (hanchor : g.contains anchor = true) (d : Direction) {c : Cell} :
    g.turn c ∈ s.cells g (g.turn anchor) (some d.quarterTurn) ↔
      c ∈ s.cells g anchor (some d) := by
  cases s with
  | empty => exact iff_of_false List.not_mem_nil List.not_mem_nil
  | everywhere =>
    show g.turn c ∈ g.cells ↔ c ∈ g.cells
    rw [Grid.mem_cells, Grid.mem_cells, Grid.contains_turn]
  | custom offsets turning =>
    obtain ⟨rfl, hwhole⟩ := hs
    exact Offset.mem_place_turn hwhole hanchor d
  | band bounds => exact Grid.mem_band_turn
  | lines directions bounds => exact Grid.mem_lines_turn hs
  | crossLine bounds => exact Grid.mem_crossLine_turn
  | line bounds => exact Grid.mem_line_turn
  | cone bounds => exact Grid.mem_cone_turn

end Shape

/-- An area at a turned anchor, facing the turned direction, is the turned area; the actor does not
move. -/
theorem Area.mem_cells_turn {a : Area} (ha : a.shape.Turns) {g : Grid} {anchor : Cell}
    (hanchor : g.contains anchor = true) (d : Direction) {c : Cell} :
    g.turn c ∈ a.cells g (g.turn anchor) (some d.quarterTurn) ↔
      c ∈ a.cells g anchor (some d) := by
  rw [Area.mem_cells, Area.mem_cells, Shape.mem_cells_turn ha hanchor d, Grid.turn_eq_center_iff]

end Reticle
