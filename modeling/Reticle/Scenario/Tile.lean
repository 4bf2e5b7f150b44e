import Reticle.Board.Basic
import Reticle.Scenario.AnchoredArea

/-!
# Tile rules

Target mode `tile`: any cell in range can be chosen that meets the restrictions. Such a cell is a
legal origin. A rule can also show as targetable every cell that the area of some legal origin
reaches; choosing one of those chooses the nearest origin that reaches it.
-/

namespace Reticle

/-! ## Ranges -/

/-- Which cells count as in range, before restrictions. -/
inductive TileRange
  /-- A band of city-block distance. -/
  | standard (bounds : Bounds)
  /-- A band of king's-move distance. -/
  | square (bounds : Bounds)
  /-- Lines in some directions, banded by the number of steps. -/
  | lines (directions : List Direction) (bounds : Bounds)
  /-- Listed cells of the grid. -/
  | custom (cells : List Cell)

namespace TileRange

/-- Whether a distance lies within bounds. -/
def within (distance : Int) (b : Bounds) : Bool :=
  (Number.exact b.min).isAtMost distance && (Number.exact b.max).isAtLeast distance

/-- Whether a cell is in range of the actor at `center`. -/
def contains (r : TileRange) (center c : Cell) : Bool :=
  match r with
  | standard bounds => within (c.manhattan center) bounds
  | square bounds => within (c.chebyshev center) bounds
  | lines directions bounds =>
    if c = center then Number.isZero bounds.min
    else
      let dRow := c.row - center.row
      let dCol := c.col - center.col
      (dRow == 0 || dCol == 0 || dRow.natAbs == dCol.natAbs)
        && (center.directionTo c).any directions.contains
        && within (c.chebyshev center) { bounds with min := Number.larger bounds.min 1 }
  | custom cells => cells.contains c

/-- The range of a mode within bounds. Listed cells that are all off the grid leave the standard
band. -/
def ofMode (mode : RangeMode) (bounds : Bounds) (listed : List Cell) : TileRange :=
  match mode with
  | .square => square bounds
  | .custom => if listed.isEmpty then standard bounds else custom listed
  | mode =>
    match mode.lineDirections? with
    | some directions => lines directions bounds
    | none => standard bounds

/-- The fact about a range. -/
def fact (r : TileRange) (minLabel maxLabel : Option String) (bounds : Bounds) : String :=
  match r with
  | custom _ => "Range custom"
  | _ => "Range " ++ Summary.range minLabel maxLabel bounds.min bounds.max

end TileRange

/-! ## Scenarios -/

/-- A rule under which a cell is chosen. -/
structure Tile where
  grid : Grid
  summary : String
  range : TileRange
  restrictions : List Restriction
  area : Area
  /-- Cells that an area reaches count as targetable. -/
  includesArea : Bool

namespace Tile

/-- The maximum range of a rule that gives none: three more than the minimum, but at least four. -/
def defaultMaxRange (min : Float) : Float :=
  Number.larger (min + 3) 4

/-- The fact about a range mode. -/
def modeFact : RangeMode → List String
  | .diagonalCross => ["Diagonal only"]
  | .cross => ["Orthogonal only"]
  | _ => []

/-- Builds the scenario from the fields of a rule. -/
def read (grid : Grid) : FieldReader Tile := do
  let min := (← FieldReader.number "min_range").getD 0
  let max := (← FieldReader.number "max_range").getD (defaultMaxRange min)
  let bounds : Bounds := ⟨min, max⟩
  let rangeMode := (← FieldReader.keyword RangeMode.ofName? "range_mode").getD .standard
  let rule ← FieldReader.rule
  let range := TileRange.ofMode rangeMode bounds
    (if rangeMode = .custom then Offset.place grid grid.center rule.rangeOffsets else [])
  let restrictions := rule.restrictions
  let areaMode ← FieldReader.keyword AreaMode.ofName? "aoe_mode"
  let anchored ← AnchoredArea.read areaMode true
  let summary := Summary.line "Tile"
    ([range.fact (rule.label? "min_range") (rule.label? "max_range") bounds]
      ++ modeFact rangeMode
      ++ anchored.fact.toList
      ++ (if requiresLine restrictions then ["Requires line of sight"] else [])
      ++ (if restrictions.contains .mustMove then ["Must move"] else []))
  return {
    grid, summary, range, restrictions
    area := anchored.area
    includesArea := rule.flag "range_display_include_aoe" && anchored.area.shape.isCustom }

/-- Whether a cell and its neighbours to the right, below, and below to the right are free cells of
the grid. -/
def footprintFits (t : Tile) (board : Board) (c : Cell) : Bool :=
  [c, c.shift 0 1, c.shift 1 0, c.shift 1 1].all fun part =>
    t.grid.contains part && !board.isBlocked part

/-- Whether a cell meets one restriction. -/
def allows (t : Tile) (board : Board) (c : Cell) : Restriction → Bool
  | .mustMove => c != t.grid.center
  | .straightShot | .lineOfSight => board.pathClear c
  | .fitTwoByTwo => t.footprintFits board c
  | .mustBeMoveable => !board.isBlocked c

/-- Whether a cell can be chosen as such. -/
def isOrigin (t : Tile) (board : Board) (c : Cell) : Bool :=
  t.grid.contains c && t.range.contains t.grid.center c
    && t.restrictions.all (t.allows board c)

/-- The area around an origin, which faces away from the actor. -/
def areaFrom (t : Tile) (origin : Cell) : List Cell :=
  t.area.cells t.grid origin (t.grid.center.directionTo origin)

/-- The legal origins in reading order, each with its area. -/
def reach (t : Tile) (board : Board) : List (Cell × List Cell) :=
  (t.grid.cells.filter (t.isOrigin board)).map fun origin => (origin, t.areaFrom origin)

end Tile

/-! ## Answers -/

/-- A scenario on a board, with the areas of all legal origins if cells in them are targetable. -/
structure TileSurvey where
  tile : Tile
  board : Board
  reach : List (Cell × List Cell)

namespace TileSurvey

/-- Surveys a board. -/
def of (tile : Tile) (board : Board) : TileSurvey :=
  ⟨tile, board, if tile.includesArea then tile.reach board else []⟩

/-- Of the origins whose area covers a cell, the one nearest to it, and the first of several. -/
def nearest? (s : TileSurvey) (c : Cell) : Option (Cell × List Cell) :=
  s.reach.foldl
    (fun best entry =>
      if entry.2.contains c && best.all fun b => c.manhattan entry.1 < c.manhattan b.1 then
        some entry
      else best)
    none

/-- Whether choosing a cell selects a target. -/
def isTargetable (s : TileSurvey) (c : Cell) : Bool :=
  s.tile.isOrigin s.board c || (s.nearest? c).isSome

/-- The affected cells when a cell is chosen. -/
def areaCells (s : TileSurvey) (c : Cell) : List Cell :=
  if s.tile.isOrigin s.board c then s.tile.areaFrom c
  else ((s.nearest? c).map (·.2)).getD []

end TileSurvey

end Reticle
