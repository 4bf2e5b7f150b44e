import Reticle.Area.Checked
import Reticle.Board.Checked
import Reticle.Scenario.Render

/-!
# Scenarios with checked coordinates

Building a scenario and asking it, with every number checked. Here the order of the questions
counts: a query that has its answer leaves the rest out, and what it leaves out cannot fault. Most
queries ask first whether a cell lies on the grid. A dash does not ask; it takes the displacement of
any cell before it knows whether a lane hits the cell.
-/

namespace Reticle

open Checked

/-! ## Self-cast rules -/

/-- `SelfCast.areaCells`, checked. -/
def SelfCast.checkedAreaCells (s : SelfCast) (c : Cell) : Checked (List Cell) :=
  if s.isTargetable c then s.area.checkedCells s.grid c none else return []

/-! ## Tile rules -/

/-- `TileRange.contains`, checked. -/
def TileRange.checkedContains (r : TileRange) (center c : Cell) : Checked Bool :=
  match r with
  | standard bounds => do
    let distance ← c.checkedManhattan center
    return within distance bounds
  | square bounds => do
    let distance ← c.checkedChebyshev center
    return within distance bounds
  | lines directions bounds =>
    if c = center then return Number.isZero bounds.min
    else do
      let (dRow, dCol) ← c.checkedDisplacement center
      let rows ← fit dRow.natAbs
      let cols ← fit dCol.natAbs
      let distance ← c.checkedChebyshev center
      return (dRow == 0 || dCol == 0 || rows == cols)
        && (Direction.toward dRow dCol).any directions.contains
        && within distance { bounds with min := Number.larger bounds.min 1 }
  | custom cells => return cells.contains c

namespace Tile

/-- `Tile.footprintFits`, checked up to the first cell that does not fit. -/
def checkedFootprintFits (t : Tile) (board : Board) (c : Cell) : Checked Bool :=
  [((0 : Int), (0 : Int)), (0, 1), (1, 0), (1, 1)].allM fun (dRow, dCol) => do
    let part ← c.checkedShift dRow dCol
    return t.grid.contains part && !board.isBlocked part

/-- `Tile.isOrigin`, checked up to the first condition that a cell does not meet. -/
def checkedIsOrigin (t : Tile) (board : Board) (c : Cell) : Checked Bool :=
  let asks := t.restrictions.contains
  pure (t.grid.contains c && !(asks .mustMove && c == t.grid.center))
    <&&> t.range.checkedContains t.grid.center c
    <&&> (if requiresLine t.restrictions then board.checkedPathClear c else pure true)
    <&&> (if asks .fitTwoByTwo then t.checkedFootprintFits board c else pure true)
    <&&> pure !(asks .mustBeMoveable && board.isBlocked c)

/-- `Tile.areaFrom`, checked. -/
def checkedAreaFrom (t : Tile) (origin : Cell) : Checked (List Cell) := do
  let (dRow, dCol) ← origin.checkedDisplacement t.grid.center
  t.area.checkedCells t.grid origin (Direction.toward dRow dCol)

/-- Notes that the area of an origin covers a cell. The first of the nearest origins is kept, and
distances are compared only if there is one already. -/
def checkedNote (origin : Cell) (nearest : List (Cell × Cell)) (covered : Cell) :
    Checked (List (Cell × Cell)) :=
  match nearest.lookup covered with
  | some best => do
    let distance ← covered.checkedManhattan origin
    let least ← covered.checkedManhattan best
    return if distance < least then (covered, origin) :: nearest else nearest
  | none => return (covered, origin) :: nearest

/-- The nearest legal origin of every cell that an area covers, checked. The first entry of a cell
counts. -/
def checkedNearest (t : Tile) (board : Board) : Checked (List (Cell × Cell)) := do
  let origins ← t.grid.cells.filterM (t.checkedIsOrigin board)
  origins.foldlM
    (fun nearest origin => do
      let covered ← t.checkedAreaFrom origin
      covered.foldlM (checkedNote origin) nearest)
    []

end Tile

/-- A tile rule on a board, with the nearest origins of the covered cells. They are asked for only
if cells in areas are targetable and the chosen cell is no legal origin. -/
structure CheckedTile where
  tile : Tile
  board : Board
  nearest : Checked (List (Cell × Cell))

namespace CheckedTile

/-- Surveys a board. -/
def of (tile : Tile) (board : Board) : CheckedTile :=
  ⟨tile, board, if tile.includesArea then tile.checkedNearest board else return []⟩

/-- `TileSurvey.isTargetable`, checked. -/
def isTargetable (s : CheckedTile) (c : Cell) : Checked Bool := do
  if ← s.tile.checkedIsOrigin s.board c then return true
  else
    let nearest ← s.nearest
    return (nearest.lookup c).isSome

/-- `TileSurvey.areaCells`, checked. -/
def areaCells (s : CheckedTile) (c : Cell) : Checked (List Cell) := do
  if ← s.tile.checkedIsOrigin s.board c then s.tile.checkedAreaFrom c
  else
    let nearest ← s.nearest
    match nearest.lookup c with
    | some origin => s.tile.checkedAreaFrom origin
    | none => return []

end CheckedTile

/-! ## Directional rules -/

namespace Directional

/-- The lane of a direction, checked. -/
def checkedLaneOf (grid : Grid) (selection : Bounds) (area : LaneArea) (sparesActor : Bool)
    (d : Direction) : Checked Lane := do
  let selection ← grid.checkedLine grid.center d selection
  let pattern ←
    match area with
    | .pattern shape => Area.checkedCells ⟨shape, sparesActor⟩ grid grid.center (some d)
    | _ => pure []
  return ⟨d, selection, pattern⟩

/-- Builds the scenario of a directional mode, with its lanes checked. -/
def checkedOfAiming (a : Aiming) (mode : TargetMode) (grid : Grid) : Checked Directional := do
  let lanes ← mode.directions.mapM
    (checkedLaneOf grid (selectionOf a) (areaOf a) a.sparesActor)
  return { ofAiming a mode grid with lanes }

/-- `DirectionalSurvey.splashSource?`, checked. Only of the cells within the radius is the path
looked at, and none after the first that has a clear one. -/
def checkedSplashSource? (s : Directional) (board : Board) (c : Cell) (radius : Float) :
    Checked (Option Cell) :=
  if s.sparesActor && c == s.grid.center then return none
  else
    (s.lanes.flatMap (·.selection)).findM? fun source => do
      let distance ← c.checkedManhattan source
      if (Number.exact radius).isAtLeast distance then board.checkedPathClear source
      else return false

/-- One lane more, when the lane that fits a displacement best is looked for: paths are looked at
only if the lane fits better than the best so far. -/
def checkedContest (board : Board) (c : Cell) (dRow dCol : Int) (best : Option (Lane × Int))
    (lane : Lane) : Checked (Option (Lane × Int)) :=
  if lane.pattern.contains c then do
    let rank ← lane.direction.checkedRank dRow dCol
    if best.any (rank ≤ ·.2) then return best
    else if ← lane.selection.anyM board.checkedPathClear then return some (lane, rank)
    else return best
  else return best

/-- `DirectionalSurvey.bestPattern?`, checked. -/
def checkedBestPattern? (s : Directional) (board : Board) (c : Cell) : Checked (Option Lane) := do
  let (dRow, dCol) ← c.checkedDisplacement s.grid.center
  let best ← s.lanes.foldlM (checkedContest board c dRow dCol) none
  return best.map (·.1)

/-- `DirectionalSurvey.hit?`, checked. -/
def checkedHit? (s : Directional) (board : Board) (c : Cell) : Checked (Option Hit) :=
  if s.grid.contains c then
    match s.area with
    | .splash radius => do
      let source ← s.checkedSplashSource? board c radius
      return source.map .splash
    | .placed _ =>
      match s.lanes.find? (·.selection.contains c) with
      | some lane => do
        let clear ← board.checkedPathClear c
        return if clear then some (.selected lane) else none
      | none => return none
    | .pattern _ => do
      let lane ← s.checkedBestPattern? board c
      return lane.map .pattern
  else return none

/-- `DirectionalSurvey.isTargetable`, checked. -/
def checkedIsTargetable (s : Directional) (board : Board) (c : Cell) : Checked Bool := do
  let hit ← s.checkedHit? board c
  return hit.isSome

/-- `DirectionalSurvey.areaCells`, checked. -/
def checkedAreaCells (s : Directional) (board : Board) (c : Cell) : Checked (List Cell) := do
  let hit ← s.checkedHit? board c
  match hit, s.area with
  | some (.splash source), .splash radius =>
    Area.checkedCells ⟨.band ⟨0, radius⟩, s.sparesActor⟩ s.grid source none
  | some (.selected lane), .placed area => area.checkedCells s.grid c (some lane.direction)
  | some (.pattern lane), _ => return lane.pattern
  | _, _ => return []

end Directional

/-! ## Dashes -/

namespace Dash

/-- The path of a dash from a cell, in at most so many steps, checked. -/
def checkedPath (s : Dash) (board : Board) (d : Direction) : Nat → Cell → Checked (List Cell)
  | 0, _ => return []
  | steps + 1, stop => do
    let next ← stop.checkedStep d 1
    if s.grid.contains next && !board.isBlocked next then
      let rest ← s.checkedPath board d steps next
      return next :: rest
    else return []

/-- `Dash.lane`, checked. -/
def checkedLane (s : Dash) (board : Board) (d : Direction) : Checked DashLane := do
  let path ← s.checkedPath board d s.maxSteps.toNat s.grid.center
  let stop := path.getLastD s.grid.center
  let area ← s.area.checkedCells s.grid stop (some d)
  return ⟨d, path, stop, (path ++ area).eraseDups⟩

/-- `Dash.lanes`, checked. -/
def checkedLanes (s : Dash) (board : Board) : Checked (List DashLane) :=
  Direction.cardinals.mapM (s.checkedLane board)

/-- `DashSurvey.laneFor?`, checked. The displacement of the cell is taken also if no lane hits
it. -/
def checkedLaneFor? (s : Dash) (lanes : List DashLane) (c : Cell) : Checked (Option DashLane) :=
  let covering := lanes.filter (·.hits.contains c)
  if c = s.grid.center then return covering.head?
  else do
    let (dRow, dCol) ← c.checkedDisplacement s.grid.center
    let ranked ← covering.mapM fun lane => do
      let rank ← lane.direction.checkedRank dRow dCol
      return (lane, rank)
    return (firstGreatest (·.2) ranked).map (·.1)

end Dash

/-- A dash scenario on a board, with its dashes. -/
structure CheckedDash where
  dash : Dash
  lanes : Checked (List DashLane)

namespace CheckedDash

/-- Surveys a board. -/
def of (dash : Dash) (board : Board) : CheckedDash :=
  ⟨dash, dash.checkedLanes board⟩

/-- `DashSurvey.isTargetable`, checked. -/
def isTargetable (s : CheckedDash) (c : Cell) : Checked Bool := do
  let lanes ← s.lanes
  return lanes.any (·.hits.contains c)

/-- `DashSurvey.areaCells`, checked. -/
def areaCells (s : CheckedDash) (c : Cell) : Checked (List Cell) := do
  let lanes ← s.lanes
  let lane ← s.dash.checkedLaneFor? lanes c
  return (lane.map (·.hits)).getD []

end CheckedDash

/-! ## All scenarios -/

/-- A scenario on a board, asked with checked coordinates. -/
inductive CheckedSurvey
  | selfCast (s : SelfCast)
  | tile (s : CheckedTile)
  | directional (s : Directional) (board : Board)
  | dash (s : CheckedDash)

namespace CheckedSurvey

/-- `Survey.isTargetable`, checked. -/
def isTargetable : CheckedSurvey → Cell → Checked Bool
  | selfCast s, c => return s.isTargetable c
  | tile s, c => s.isTargetable c
  | directional s board, c => s.checkedIsTargetable board c
  | dash s, c => s.isTargetable c

/-- `Survey.areaCells`, checked. -/
def areaCells : CheckedSurvey → Cell → Checked (List Cell)
  | selfCast s, c => s.checkedAreaCells c
  | tile s, c => s.areaCells c
  | directional s board, c => s.checkedAreaCells board c
  | dash s, c => s.areaCells c

end CheckedSurvey

namespace Scenario

/-- `Scenario.survey`, checked. -/
def checkedSurvey (s : Scenario) (board : Board) : CheckedSurvey :=
  match s with
  | selfCast s => .selfCast s
  | tile t => .tile (.of t board)
  | directional s => .directional s board
  | dash s => .dash (.of s board)

/-- `Scenario.isTargetable`, checked. -/
def checkedIsTargetable (s : Scenario) (board : Board) (c : Cell) : Checked Bool :=
  (s.checkedSurvey board).isTargetable c

/-- `Scenario.areaCells`, checked. -/
def checkedAreaCells (s : Scenario) (board : Board) (c : Cell) : Checked (List Cell) :=
  (s.checkedSurvey board).areaCells c

end Scenario

/-! ## Building -/

/-- The scenario, once what is computed with coordinates when it is built is checked: the area of a
self-cast rule, to see whether there is one, and the lanes of a directional one. -/
def Scenario.checkedRead (mode : TargetMode) (grid : Grid) (dash : Bool) :
    FieldReader (Checked Scenario) := do
  match mode with
  | .none =>
    let s ← SelfCast.read grid
    return do
      let _area ← s.area.checkedCells grid grid.center none
      return .selfCast s
  | .tile => return .ok (.tile (← Tile.read grid))
  | .direction | .direction8 =>
    let aiming ← Aiming.read
    if dash && Dash.applies mode aiming then return .ok (.dash (.ofAiming aiming grid))
    else
      return do
        let s ← Directional.checkedOfAiming aiming mode grid
        return .directional s

/-- `Rule.render`, checked. -/
def Rule.checkedRender (rule : Rule) (grid : Grid) (sliders : Sliders) (options : RenderOptions) :
    Checked (Except RenderError Rendered × Sliders) :=
  match rule.targetMode with
  | .error error => return (.error error, sliders)
  | .ok mode => do
    let (scenario, state) :=
      (Scenario.checkedRead mode grid options.dash).run rule ⟨sliders, []⟩
    let scenario ← scenario
    let warnings :=
      rule.unsupportedWarnings mode ++ state.warnings ++ options.noteWarnings
    return (.ok ⟨mode, scenario, warnings⟩, state.sliders)

/-- `render`, checked. -/
def checkedRender (text : String) (grid : Grid) (sliders : Sliders) (options : RenderOptions) :
    Checked (Outcome × Sliders) :=
  let sliders := sliders.forgetRequired
  if Text.isBlankText text then return (.empty, sliders)
  else do
    match ← (Rule.ofText text).checkedRender grid sliders options with
    | (.error error, sliders) => return (.failed error, sliders)
    | (.ok rendered, sliders) => return (.ready rendered, sliders)

end Reticle
