import Reticle.Scenario.AnchoredArea

/-!
# Self-cast rules

Target mode `none`: the actor's own cell is the only target.
-/

namespace Reticle

/-- A rule under which the actor targets itself. -/
structure SelfCast where
  grid : Grid
  summary : String
  area : Area

namespace SelfCast

/-- Builds the scenario from the fields of a rule. -/
def read (grid : Grid) : FieldReader SelfCast := do
  let mode ← FieldReader.keyword AreaMode.ofName? "aoe_mode"
  let anchored ← AnchoredArea.read mode false
  return ⟨grid, Summary.line "Self" anchored.fact.toList, anchored.area⟩

/-- Whether a cell can be chosen. -/
def isTargetable (s : SelfCast) (c : Cell) : Bool :=
  c == s.grid.center

/-- The affected cells when a cell is chosen. -/
def areaCells (s : SelfCast) (c : Cell) : List Cell :=
  if s.isTargetable c then s.area.cells s.grid c none else []

/-- The area is shown without a choice, unless it has no cell. -/
def alwaysShown (s : SelfCast) : Bool :=
  !(s.areaCells s.grid.center).isEmpty

end SelfCast

end Reticle
