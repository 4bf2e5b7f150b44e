import Reticle.Board.CellSet
import Reticle.Plane.Crossing
import Reticle.Plane.Grid
import Reticle.Plane.Trace
import Reticle.Text.Split

/-!
# The board

A board is a grid with obstacles on it. Obstacles stand on cells of the grid other than the
actor's; every change refuses the others. The straight path from the actor to a cell is clear when
no obstacle other than that cell lies on it.
-/

namespace Reticle

/-- A grid with the cells that are blocked. -/
structure Board where
  grid : Grid
  obstacles : CellSet
deriving DecidableEq

namespace Board

/-- A grid without obstacles. -/
def empty (grid : Grid) : Board :=
  ⟨grid, .empty⟩

/-- Whether a cell holds an obstacle. -/
def isBlocked (b : Board) (c : Cell) : Bool :=
  b.obstacles.contains c

/-- Whether a cell can hold an obstacle: it lies on the grid and is not the actor's. -/
def accepts (b : Board) (c : Cell) : Bool :=
  b.grid.contains c && c != b.grid.center

/-- The board with an obstacle more, if the cell can hold one and does not yet. -/
def block? (b : Board) (c : Cell) : Option Board :=
  if b.accepts c && !b.isBlocked c then some { b with obstacles := b.obstacles.insert c } else none

/-- The board with an obstacle less, if there was one on the cell. -/
def unblock? (b : Board) (c : Cell) : Option Board :=
  if b.isBlocked c then some { b with obstacles := b.obstacles.erase c } else none

/-- The board with an obstacle on a cell, if the cell can hold one. -/
def block (b : Board) (c : Cell) : Board :=
  (b.block? c).getD b

/-- The board without an obstacle on a cell. -/
def unblock (b : Board) (c : Cell) : Board :=
  (b.unblock? c).getD b

/-- The board with the obstacle on a cell taken away, or else put there. -/
def toggle (b : Board) (c : Cell) : Board :=
  match b.unblock? c with
  | some b => b
  | none => b.block c

/-- The board without obstacles. -/
def clear (b : Board) : Board :=
  { b with obstacles := .empty }

/-- The sample layout, as displacements from the actor. -/
def sampleOffsets : List (Int × Int) :=
  [(-2, 0), (2, 0), (0, -2), (0, 2), (-1, -1), (1, 1), (-1, 2), (1, -2)]

/-- The board with the sample layout added. -/
def addSample (b : Board) : Board :=
  sampleOffsets.foldl (fun b (dRow, dCol) => b.block (b.grid.center.shift dRow dCol)) b

/-- The obstacles as text: cells in reading order, which tells boards of one grid apart. -/
def fingerprint (b : Board) : String :=
  Text.join "|" (b.obstacles.cells.map fun c => toString c.row ++ "," ++ toString c.col)

/-- Whether the straight path from the actor to a cell is free of other obstacles. -/
def pathClear (b : Board) (target : Cell) : Bool :=
  (lineCells b.grid.center target).all fun c =>
    c == target || !b.isBlocked c || !crosses c b.grid.center target

end Board

end Reticle
