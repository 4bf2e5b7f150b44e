import Reticle.Board.Basic
import Reticle.Plane.CheckedTrace

/-!
# Paths with checked coordinates
-/

namespace Reticle.Board

/-- `Board.pathClear`, checked. Whether a segment crosses a cell is computed without 32-bit
numbers. -/
def checkedPathClear (b : Board) (target : Cell) : Checked Bool := do
  let cells ← checkedLineCells (Walk.rounds b.grid.center target) b.grid.center target
  return cells.all fun c => c == target || !b.isBlocked c || !crosses c b.grid.center target

end Reticle.Board
