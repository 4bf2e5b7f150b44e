import Reticle.Scenario.Dash
import Reticle.Scenario.Directional
import Reticle.Scenario.SelfCast
import Reticle.Scenario.Tile

/-!
# Scenarios

A scenario answers two questions about a board: can the actor choose a cell, and which cells are
affected then. What the answers need from the board is worked out once, in a survey of the board;
the answers for single cells are read off the survey.
-/

namespace Reticle

/-- What a rule lets the actor do. -/
inductive Scenario
  | selfCast (s : SelfCast)
  | tile (s : Tile)
  | directional (s : Directional)
  | dash (s : Dash)

/-- A scenario on a board. -/
inductive Survey
  | selfCast (s : SelfCast)
  | tile (s : TileSurvey)
  | directional (s : DirectionalSurvey)
  | dash (s : DashSurvey)

namespace Survey

/-- Whether choosing a cell selects a target. -/
def isTargetable : Survey → Cell → Bool
  | selfCast s => s.isTargetable
  | tile s => s.isTargetable
  | directional s => s.isTargetable
  | dash s => s.isTargetable

/-- The affected cells when a cell is chosen; none if it is no target. -/
def areaCells : Survey → Cell → List Cell
  | selfCast s => s.areaCells
  | tile s => s.areaCells
  | directional s => s.areaCells
  | dash s => s.areaCells

end Survey

namespace Scenario

/-- The one-line description. -/
def summary : Scenario → String
  | selfCast s => s.summary
  | tile s => s.summary
  | directional s => s.summary
  | dash s => s.summary

/-- Whether the area is shown without a choice. -/
def alwaysShown : Scenario → Bool
  | selfCast s => s.alwaysShown
  | directional s => s.alwaysShown
  | tile _ | dash _ => false

/-- Surveys a board. -/
def survey (s : Scenario) (board : Board) : Survey :=
  match s with
  | selfCast s => .selfCast s
  | tile s => .tile (.of s board)
  | directional s => .directional (.of s board)
  | dash s => .dash (.of s board)

/-- Whether choosing a cell on a board selects a target. -/
def isTargetable (s : Scenario) (board : Board) (c : Cell) : Bool :=
  (s.survey board).isTargetable c

/-- The affected cells when a cell is chosen on a board. -/
def areaCells (s : Scenario) (board : Board) (c : Cell) : List Cell :=
  (s.survey board).areaCells c

end Scenario

end Reticle
