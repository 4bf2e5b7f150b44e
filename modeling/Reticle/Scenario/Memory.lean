import Reticle.Board.Memo
import Reticle.Scenario.Basic

/-!
# Scenarios that remember

What a tile rule reaches and where dashes lead takes a look at the whole board. A scenario that is
asked about one cell after the other remembers the last such look and the obstacles it was for, and
looks again only when the obstacles are others. An outlook is a scenario before a board whose
answers come from that memory.
-/

namespace Reticle

/-- What a scenario remembers of the boards it was asked about. -/
structure Memory where
  /-- The legal origins of a tile rule with their areas. -/
  reach : Memo (List (Cell × List Cell))
  /-- The dashes of a dash rule. -/
  lanes : Memo (List DashLane)

/-- Nothing is remembered yet. -/
def Memory.cold : Memory :=
  ⟨.cold, .cold⟩

/-- An answer that reads the memory and may renew it. -/
abbrev Recall := StateM Memory

namespace Tile

/-- The legal origins with their areas. -/
def recallReach (t : Tile) (board : Board) : Recall (List (Cell × List Cell)) := fun memory =>
  let answer := memory.reach.get board t.reach
  (answer.value, { memory with reach := answer.memo })

/-- The nearest origin whose area covers a cell, if cells in areas are targetable at all. -/
def recallNearest (t : Tile) (board : Board) (c : Cell) : Recall (Option (Cell × List Cell)) := do
  if t.includesArea then return (TileSurvey.mk t board (← t.recallReach board)).nearest? c
  else return none

/-- Whether choosing a cell selects a target. Legal origins are told without the memory. -/
def recallTargetable (t : Tile) (board : Board) (c : Cell) : Recall Bool := do
  if t.isOrigin board c then return true
  else return (← t.recallNearest board c).isSome

/-- The affected cells when a cell is chosen. -/
def recallArea (t : Tile) (board : Board) (c : Cell) : Recall (List Cell) := do
  if t.isOrigin board c then return t.areaFrom c
  else return ((← t.recallNearest board c).map (·.2)).getD []

end Tile

namespace Dash

/-- The dashes that are possible. -/
def recallLanes (s : Dash) (board : Board) : Recall (List DashLane) := fun memory =>
  let answer := memory.lanes.get board s.lanes
  (answer.value, { memory with lanes := answer.memo })

/-- Whether choosing a cell selects a target. -/
def recallTargetable (s : Dash) (board : Board) (c : Cell) : Recall Bool := do
  return (DashSurvey.mk s (← s.recallLanes board)).isTargetable c

/-- The affected cells when a cell is chosen. -/
def recallArea (s : Dash) (board : Board) (c : Cell) : Recall (List Cell) := do
  return (DashSurvey.mk s (← s.recallLanes board)).areaCells c

end Dash

/-- A scenario before a board. What tile and dash rules need from the board is left to the
memory. -/
inductive Outlook
  | selfCast (s : SelfCast)
  | tile (t : Tile) (board : Board)
  | directional (s : DirectionalSurvey)
  | dash (s : Dash) (board : Board)

/-- A scenario put before a board. -/
def Scenario.outlook (s : Scenario) (board : Board) : Outlook :=
  match s with
  | selfCast s => .selfCast s
  | tile t => .tile t board
  | directional s => .directional (.of s board)
  | dash s => .dash s board

namespace Outlook

/-- Whether choosing a cell selects a target. -/
def recallTargetable (o : Outlook) (c : Cell) : Recall Bool :=
  match o with
  | selfCast s => return s.isTargetable c
  | tile t board => t.recallTargetable board c
  | directional s => return s.isTargetable c
  | dash s board => s.recallTargetable board c

/-- The affected cells when a cell is chosen; none if it is no target. -/
def recallArea (o : Outlook) (c : Cell) : Recall (List Cell) :=
  match o with
  | selfCast s => return s.areaCells c
  | tile t board => t.recallArea board c
  | directional s => return s.areaCells c
  | dash s board => s.recallArea board c

end Outlook

end Reticle
