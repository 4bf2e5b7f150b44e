import Reticle.Plane.Checked
import Reticle.Plane.Trace

/-!
# Lines with checked coordinates

The loop that walks along a line, with every number checked. It is ended by the goal and by nothing
else. Here it is given a number of rounds, and not to be at the goal when no round is left is a
fault; between two cells the longer axis says how many rounds there are.
-/

namespace Reticle

open Checked

namespace Walk

/-- `Walk.between`, checked. -/
def checkedBetween (start goal : Cell) : Checked Walk := do
  let cols ← fit (goal.col - start.col)
  let cols ← fit cols.natAbs
  let rows ← fit (goal.row - start.row)
  let rows ← fit rows.natAbs
  let rowStep := if start.row < goal.row then 1 else -1
  let colStep := if start.col < goal.col then 1 else -1
  return { goal, rows, cols, rowStep, colStep }

/-- What one round of the loop comes to. -/
structure Round where
  next : Cell
  passed : List Cell
  drift : Int

/-- One round of the loop, checked. -/
def checkedRound (w : Walk) (here : Cell) (drift : Int) : Checked Round := do
  let doubled ← fit (drift * 2)
  let threshold ← fit (-w.rows)
  let alongCols := decide (threshold < doubled)
  let alongRows := decide (doubled < w.cols)
  let drift ← if alongCols then fit (drift - w.rows) else pure drift
  let col ← if alongCols then fit (here.col + w.colStep) else pure here.col
  let drift ← if alongRows then fit (drift + w.cols) else pure drift
  let row ← if alongRows then fit (here.row + w.rowStep) else pure here.row
  if alongCols && alongRows then
    let above ← fit (row - w.rowStep)
    let beside ← fit (col - w.colStep)
    return ⟨⟨row, col⟩, [⟨above, col⟩, ⟨row, beside⟩], drift⟩
  else return ⟨⟨row, col⟩, [], drift⟩

/-- `Walk.cellsFrom`, checked. Only the goal ends the loop; not to be there when no round is left is
a fault. -/
def checkedCellsFrom (w : Walk) : Nat → Cell → Int → Checked (List Cell)
  | 0, here, _ => if here = w.goal then .ok [] else .error .unfinished
  | rounds + 1, here, drift =>
    if here = w.goal then .ok []
    else do
      let round ← w.checkedRound here drift
      let rest ← w.checkedCellsFrom rounds round.next round.drift
      return round.next :: (round.passed ++ rest)

/-- The rounds that the loop takes between two cells: one for each step along the longer axis. -/
def rounds (start goal : Cell) : Nat :=
  max (goal.row - start.row).natAbs (goal.col - start.col).natAbs

end Walk

/-- `walkedCells`, checked, in at most so many rounds. -/
def checkedWalkedCells (rounds : Nat) (start goal : Cell) : Checked (List Cell) := do
  let w ← Walk.checkedBetween start goal
  let drift ← fit (w.cols - w.rows)
  let cells ← w.checkedCellsFrom rounds start drift
  return (start :: cells).eraseDups

/-- `lineCells`, checked, in at most so many rounds. -/
def checkedLineCells (rounds : Nat) (start goal : Cell) : Checked (List Cell) := do
  if start = goal then return []
  else
    let walked ←
      if goal < start then List.reverse <$> checkedWalkedCells rounds goal start
      else checkedWalkedCells rounds start goal
    return walked.filter (· != start)

end Reticle
