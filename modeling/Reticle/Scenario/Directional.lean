import Reticle.Board.Basic
import Reticle.Scenario.Aiming

/-!
# Directional rules

Target modes `direction` and `direction8`. Each direction has a lane: the cells that can be
selected along it and, for areas that are cast from the actor, the cells that the area covers. A
lane is usable while some cell that can be selected has a clear path from the actor.
-/

namespace Reticle

/-- One direction with the cells that can be selected along it. -/
structure Lane where
  direction : Direction
  selection : List Cell
  /-- The cells of an area that is cast from the actor; other areas have none here. -/
  pattern : List Cell

/-- Where the area of a directional rule lies. -/
inductive LaneArea
  /-- Within a radius of a selected cell. -/
  | splash (radius : Float)
  /-- Around the selected cell. -/
  | placed (area : Area)
  /-- Cast from the actor, one pattern a lane. -/
  | pattern (shape : Shape)

/-- A rule under which a direction is chosen. -/
structure Directional where
  grid : Grid
  summary : String
  lanes : List Lane
  area : LaneArea
  sparesActor : Bool
  /-- The area is shown without a choice. -/
  alwaysShown : Bool

namespace Directional

/-- Where the area lies. -/
def areaOf (a : Aiming) : LaneArea :=
  if Number.isPositive a.splash then .splash a.splash
  else
    match a.effectiveMode with
    | .line => .pattern (.line a.reach)
    | .cone => .pattern (.cone a.reach)
    | .custom => .pattern a.customShape
    | .all => .pattern .everywhere
    | mode => .placed ⟨a.placedShape mode, a.sparesActor⟩

/-- The steps that can be selected: without a range of its own, a line is selected along its
length. -/
def selectionOf (a : Aiming) : Bounds :=
  match areaOf a with
  | .pattern (.line reach) =>
    if a.hasRange then a.selection
    else
      let least := Number.larger reach.min 1
      ⟨least, Number.larger (Number.larger reach.max a.selection.min) least⟩
  | _ => a.selection

/-- The fact about the area. -/
def areaFact (a : Aiming) : LaneArea → List String
  | .splash radius => [Aiming.splashFact radius]
  | .pattern (.line reach) | .pattern (.cone reach) => [Aiming.lengthFact reach]
  | .pattern (.custom _ _) => ["Splash custom"]
  | .pattern .everywhere => ["Splash all"]
  | .pattern _ => []
  | .placed area => a.placedFact area.shape

/-- The name of a directional mode. -/
def modeName : TargetMode → String
  | .direction8 => "Direction (8-way)"
  | _ => "Direction"

/-- The lane of a direction. -/
def laneOf (grid : Grid) (selection : Bounds) (area : LaneArea) (sparesActor : Bool)
    (d : Direction) : Lane where
  direction := d
  selection := grid.line grid.center d selection
  pattern :=
    match area with
    | .pattern shape => Area.cells ⟨shape, sparesActor⟩ grid grid.center (some d)
    | _ => []

/-- Builds the scenario of a directional mode. -/
def ofAiming (a : Aiming) (mode : TargetMode) (grid : Grid) : Directional :=
  let area := areaOf a
  let selection := selectionOf a
  { grid
    summary := Summary.line (modeName mode)
      ([Aiming.rangeFact selection] ++ areaFact a area ++ ["Requires line of sight"])
    lanes := mode.directions.map (laneOf grid selection area a.sparesActor)
    area
    sparesActor := a.sparesActor
    alwaysShown := a.effectiveMode = .all }

end Directional

/-! ## Answers -/

/-- A lane with the cells that can be selected on it while obstacles stand as they do. -/
structure OpenLane where
  lane : Lane
  clear : List Cell

/-- How a cell is reached. -/
inductive Hit
  /-- By the splash around a selected cell. -/
  | splash (source : Cell)
  /-- By being selected. -/
  | selected (lane : Lane)
  /-- By the pattern of a lane. -/
  | pattern (lane : Lane)

/-- A directional scenario on a board, with what can be selected there. -/
structure DirectionalSurvey where
  scenario : Directional
  lanes : List OpenLane

namespace DirectionalSurvey

/-- Surveys a board. -/
def of (scenario : Directional) (board : Board) : DirectionalSurvey :=
  ⟨scenario, scenario.lanes.map fun lane => ⟨lane, lane.selection.filter board.pathClear⟩⟩

/-- The first cell that can be selected and whose splash covers a cell, in the order of lanes and
then of steps. A spared actor's cell is not covered. -/
def splashSource? (s : DirectionalSurvey) (c : Cell) (radius : Float) : Option Cell :=
  if s.scenario.sparesActor && c == s.scenario.grid.center then none
  else
    (s.lanes.flatMap (·.clear)).find? fun source =>
      (Number.exact radius).isAtLeast (c.manhattan source)

/-- The usable lane whose pattern covers a cell and whose direction fits it best, the first of
several. -/
def bestPattern? (s : DirectionalSurvey) (c : Cell) : Option Lane :=
  firstGreatest (fun lane => s.scenario.grid.fit c lane.direction)
    ((s.lanes.filter fun l => l.lane.pattern.contains c && !l.clear.isEmpty).map (·.lane))

/-- How a cell is reached, if it is. -/
def hit? (s : DirectionalSurvey) (c : Cell) : Option Hit :=
  if !s.scenario.grid.contains c then none
  else
    match s.scenario.area with
    | .splash radius => (s.splashSource? c radius).map .splash
    | .placed _ => (s.lanes.find? (·.clear.contains c)).map fun l => .selected l.lane
    | .pattern _ => (s.bestPattern? c).map .pattern

/-- Whether choosing a cell selects a target. -/
def isTargetable (s : DirectionalSurvey) (c : Cell) : Bool :=
  (s.hit? c).isSome

/-- The affected cells when a cell is chosen. -/
def areaCells (s : DirectionalSurvey) (c : Cell) : List Cell :=
  let grid := s.scenario.grid
  match s.hit? c, s.scenario.area with
  | some (.splash source), .splash radius =>
    Area.cells ⟨.band ⟨0, radius⟩, s.scenario.sparesActor⟩ grid source none
  | some (.selected lane), .placed area => area.cells grid c (some lane.direction)
  | some (.pattern lane), _ => lane.pattern
  | _, _ => []

end DirectionalSurvey

end Reticle
