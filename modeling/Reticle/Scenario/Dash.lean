import Reticle.Board.Basic
import Reticle.Scenario.Aiming

/-!
# Dash attacks

A directional rule with a range can be played as a dash: the actor moves along a cardinal direction
until an obstacle, the edge of the grid or the end of its range stops it, and strikes from where it
stands then. It hits the cells on its way and the area around its last cell.
-/

namespace Reticle

/-- A dash in one direction. -/
structure DashLane where
  direction : Direction
  /-- The cells stepped on, nearest first. -/
  path : List Cell
  /-- The last cell, which is the actor's own when the first step is barred. -/
  stop : Cell
  /-- The cells on the path, and then the area around the last cell. -/
  hits : List Cell

/-- A rule under which the actor dashes. -/
structure Dash where
  grid : Grid
  summary : String
  /-- How many steps the range allows. -/
  maxSteps : Int
  area : Area

namespace Dash

/-- Whether a directional rule is played as a dash when dashes are asked for: only in the four
cardinal directions, with a range, and not with an area that is everywhere. -/
def applies (mode : TargetMode) (a : Aiming) : Bool :=
  mode = .direction && a.hasRange && a.mode != .all

/-- The area around the last cell. -/
def shapeOf (a : Aiming) : Shape :=
  if Number.isPositive a.splash then .band ⟨0, a.splash⟩
  else
    match a.effectiveMode with
    | .custom => a.customShape
    | .cone => .cone a.reach
    | .line | .all => .line a.reach
    | mode => a.placedShape mode

/-- The fact about the area. -/
def areaFact (a : Aiming) : List String :=
  if Number.isPositive a.splash then [Aiming.splashFact a.splash]
  else
    match a.effectiveMode with
    | .custom => ["Splash custom"]
    | .cone | .line | .all => [Aiming.lengthFact a.reach]
    | mode => a.placedFact (a.placedShape mode)

/-- Builds the scenario. -/
def ofAiming (a : Aiming) (grid : Grid) : Dash where
  grid := grid
  summary := Summary.line "Dash"
    ([Aiming.rangeFact a.selection] ++ areaFact a ++ ["Stops at obstacles"])
  maxSteps := max 0 (Number.floor a.selection.max)
  area := ⟨shapeOf a, a.sparesActor⟩

/-- The cells of a dash in one direction: as many steps as the range allows, up to the first that
leaves the grid or meets an obstacle. -/
def path (s : Dash) (board : Board) (d : Direction) : List Cell :=
  ((wholeNumbers 1 (min s.maxSteps s.grid.side)).map (s.grid.center.step d)).takeWhile fun c =>
    s.grid.contains c && !board.isBlocked c

/-- The dash in one direction. -/
def lane (s : Dash) (board : Board) (d : Direction) : DashLane :=
  let path := s.path board d
  let stop := path.getLastD s.grid.center
  ⟨d, path, stop, (path ++ s.area.cells s.grid stop (some d)).eraseDups⟩

/-- The dashes in the four cardinal directions. -/
def lanes (s : Dash) (board : Board) : List DashLane :=
  Direction.cardinals.map (s.lane board)

end Dash

/-! ## Answers -/

/-- A dash scenario on a board, with the dashes that are possible there. -/
structure DashSurvey where
  dash : Dash
  lanes : List DashLane

namespace DashSurvey

/-- Surveys a board. -/
def of (dash : Dash) (board : Board) : DashSurvey :=
  ⟨dash, dash.lanes board⟩

/-- The dash that hits a cell and whose direction fits it best, the first of several. No direction
fits the actor's own cell better than another. In 32 bits the displacement of the cell is computed
first, whether or not a dash hits it: see `CheckedDash.laneFor?`. -/
def laneFor? (s : DashSurvey) (c : Cell) : Option DashLane :=
  firstGreatest (fun lane => s.dash.grid.fit c lane.direction)
    (s.lanes.filter (·.hits.contains c))

/-- Whether choosing a cell selects a target. -/
def isTargetable (s : DashSurvey) (c : Cell) : Bool :=
  s.lanes.any (·.hits.contains c)

/-- The affected cells when a cell is chosen. In 32 bits a cell too far below the grid gets no answer,
not the empty one: see `CheckedDash.areaCells`. -/
def areaCells (s : DashSurvey) (c : Cell) : List Cell :=
  ((s.laneFor? c).map (·.hits)).getD []

end DashSurvey

end Reticle
