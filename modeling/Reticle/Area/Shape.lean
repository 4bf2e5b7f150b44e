import Reticle.Area.Offset
import Reticle.Area.Pattern
import Reticle.Rule.Vocabulary

/-!
# Areas

The shape of an area says which cells around an anchor are affected. An area adds the choice to
spare the actor's own cell.
-/

namespace Reticle

/-- A pattern of cells around an anchor. -/
inductive Shape
  /-- No cell. -/
  | empty
  /-- The whole grid. -/
  | everywhere
  /-- Listed offsets, which may turn with the facing direction. -/
  | custom (offsets : List Offset) (turning : Bool)
  /-- A band around the anchor. -/
  | band (bounds : Bounds)
  /-- Lines from the anchor. -/
  | lines (directions : List Direction) (bounds : Bounds)
  /-- A line through the anchor, across the facing direction. -/
  | crossLine (bounds : Bounds)
  /-- A line from the anchor along the facing direction. -/
  | line (bounds : Bounds)
  /-- A cone from the anchor along the facing direction. -/
  | cone (bounds : Bounds)
deriving Repr

namespace Shape

/-- The cells of a shape around an anchor. -/
def cells (shape : Shape) (grid : Grid) (anchor : Cell) (facing : Option Direction) : List Cell :=
  match shape with
  | empty => []
  | everywhere => grid.cells
  | custom offsets turning =>
    Offset.place grid anchor (if turning then Offset.orient offsets facing else offsets)
  | band bounds => grid.band anchor bounds.nonNegative
  | lines directions bounds => grid.lines anchor directions bounds
  | crossLine bounds => grid.crossLine anchor facing bounds
  | line bounds =>
    match facing with
    | some d => grid.line anchor d bounds
    | none => []
  | cone bounds =>
    match facing with
    | some d => grid.cone anchor d bounds
    | none => []

/-- Whether a shape has no cell by definition. -/
def isEmpty : Shape → Bool
  | empty => true
  | _ => false

/-- Whether a shape consists of listed offsets. -/
def isCustom : Shape → Bool
  | custom _ _ => true
  | _ => false

/-- The shape of a mode within bounds: nothing within zero bounds; lines for the cross family, a
crossing line, and a band for every other mode. -/
def ofMode (mode : Option AreaMode) (bounds : Bounds) : Shape :=
  if bounds.isZero then empty
  else
    match mode with
    | some .perpendicular => crossLine bounds
    | some mode =>
      match mode.lineDirections? with
      | some directions => lines directions bounds
      | none => band bounds
    | none => band bounds

end Shape

/-- A shape, with the choice to spare the actor's own cell. -/
structure Area where
  shape : Shape
  sparesActor : Bool
deriving Repr

/-- The affected cells around an anchor. -/
def Area.cells (a : Area) (grid : Grid) (anchor : Cell) (facing : Option Direction) : List Cell :=
  let cells := a.shape.cells grid anchor facing
  if a.sparesActor then cells.filter (· != grid.center) else cells

end Reticle
