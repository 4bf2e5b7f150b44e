import Reticle.Area.Shape
import Reticle.Plane.Checked

/-!
# Areas with checked coordinates

The patterns of `Area/Pattern`, with every number checked. A walk is cut off after twice the side of
the grid, and twice the side is a 32-bit number only while the side is at most `2 ^ 30`; the cells on
the way are computed before it is known whether they lie on the grid.
-/

namespace Reticle

open Checked

namespace Grid

/-- `Grid.walkLimit`, checked. -/
def checkedWalkLimit (g : Grid) : Checked Int :=
  fit (g.side * 2)

/-- `Grid.line`, checked. -/
def checkedLine (g : Grid) (origin : Cell) (d : Direction) (b : Bounds) : Checked (List Cell) := do
  let limit ← g.checkedWalkLimit
  let cells ← ((Steps.ofBounds b).atMost limit).toList.mapM (origin.checkedStep d)
  return g.clip cells

/-- `Grid.lines`, checked. -/
def checkedLines (g : Grid) (origin : Cell) (directions : List Direction) (b : Bounds) :
    Checked (List Cell) := do
  let lines ← directions.mapM fun d => g.checkedLine origin d b
  return lines.flatten.eraseDups

/-- The cells of a cone at one step, checked. -/
def checkedConeRow (origin : Cell) (d side : Direction) (step : Int) : Checked (List Cell) := do
  let spine ← origin.checkedStep d step
  let before ← fit (step - 1)
  let left ← fit (-max 0 before)
  (wholeNumbers left (max 0 before)).mapM (spine.checkedStep side)

/-- `Grid.cone`, checked. -/
def checkedCone (g : Grid) (origin : Cell) (d : Direction) (b : Bounds) : Checked (List Cell) := do
  let side ← d.checkedQuarterTurn
  let limit ← g.checkedWalkLimit
  let rows ← ((Steps.ofBounds b).atMost limit).toList.mapM (checkedConeRow origin d side)
  return g.clip rows.flatten

/-- The steps along a crossing line, within bounds in either order and between two limits. -/
def crossSteps (b : Bounds) (least greatest : Int) : List Int :=
  wholeNumbers (max (Number.ceil (Number.smaller b.min b.max)) least)
    (min (Number.floor (Number.larger b.min b.max)) greatest)

/-- `Grid.crossLine`, checked. -/
def checkedCrossLine (g : Grid) (through : Cell) (facing : Option Direction) (b : Bounds) :
    Checked (List Cell) :=
  match facing with
  | none => return [through]
  | some d => do
    let side ← d.checkedQuarterTurn
    let negated ← fit (-g.side)
    let least ← fit (negated * 2)
    let limit ← g.checkedWalkLimit
    let cells ← (crossSteps b least limit).mapM (through.checkedStep side)
    return g.clip cells

/-- `Grid.band`, checked. Bounds in the wrong order leave nothing to be computed. A distance that is
a 32-bit number is compared with the maximum as a coordinate. -/
def checkedBand (g : Grid) (center : Cell) (b : Bounds) : Checked (List Cell) :=
  let least := max 0 (Number.floor b.min)
  let greatest := max 0 (Number.floor b.max)
  if greatest < least then return []
  else
    g.cells.filterM fun c => do
      let distance ← c.checkedManhattan center
      return decide (least ≤ distance ∧ distance ≤ greatest)

end Grid

/-- `Offset.orient`, checked. -/
def Offset.checkedOrient (offsets : List Offset) (facing : Option Direction) :
    Checked (List Offset) :=
  match facing with
  | none => return offsets
  | some d => do
    let _side ← d.checkedQuarterTurn
    return offsets.map (turnedTo · d)

/-- `Shape.cells`, checked. -/
def Shape.checkedCells (shape : Shape) (grid : Grid) (anchor : Cell) (facing : Option Direction) :
    Checked (List Cell) :=
  match shape with
  | empty => return []
  | everywhere => return grid.cells
  | custom offsets turning => do
    let offsets ← if turning then Offset.checkedOrient offsets facing else pure offsets
    return Offset.place grid anchor offsets
  | band bounds => grid.checkedBand anchor bounds.nonNegative
  | lines directions bounds => grid.checkedLines anchor directions bounds
  | crossLine bounds => grid.checkedCrossLine anchor facing bounds
  | line bounds =>
    match facing with
    | some d => grid.checkedLine anchor d bounds
    | none => return []
  | cone bounds =>
    match facing with
    | some d => grid.checkedCone anchor d bounds
    | none => return []

/-- `Area.cells`, checked. -/
def Area.checkedCells (a : Area) (grid : Grid) (anchor : Cell) (facing : Option Direction) :
    Checked (List Cell) := do
  let cells ← a.shape.checkedCells grid anchor facing
  return if a.sparesActor then cells.filter (· != grid.center) else cells

end Reticle
