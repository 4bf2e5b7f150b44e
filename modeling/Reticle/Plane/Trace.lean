import Reticle.Plane.Cell

/-!
# The cells along a straight line

`lineCells` lists the cells met on the way from one cell to another. The walk is an
error-accumulating one: every step moves along the longer axis, and whenever a step also moves
along the shorter axis, both cells that the step cuts past are listed too. A line therefore names
every cell that the straight segment can touch, and it names the same cells from either end.
-/

namespace Reticle

/-- What stays fixed during a walk: where it ends, how far apart the ends are, and which way each
coordinate moves. -/
structure Walk where
  goal : Cell
  rows : Int
  cols : Int
  rowStep : Int
  colStep : Int

namespace Walk

/-- The walk from one cell to another. -/
def between (start goal : Cell) : Walk where
  goal := goal
  rows := (goal.row - start.row).natAbs
  cols := (goal.col - start.col).natAbs
  rowStep := if start.row < goal.row then 1 else -1
  colStep := if start.col < goal.col then 1 else -1

/-- The cells entered after standing on `here`, with `drift` the accumulated lead of the column
axis over the row axis. A step along both axes also lists the two cells it passes between. At most
`fuel` steps are taken. -/
def cellsFrom (w : Walk) : Nat → Cell → Int → List Cell
  | 0, _, _ => []
  | fuel + 1, here, drift =>
    if here = w.goal then []
    else
      let alongCols := decide (-w.rows < 2 * drift)
      let alongRows := decide (2 * drift < w.cols)
      let next : Cell :=
        ⟨here.row + (if alongRows then w.rowStep else 0),
          here.col + (if alongCols then w.colStep else 0)⟩
      let drift := drift - (if alongCols then w.rows else 0) + (if alongRows then w.cols else 0)
      let passed :=
        if alongCols && alongRows then
          [⟨next.row - w.rowStep, next.col⟩, ⟨next.row, next.col - w.colStep⟩]
        else []
      next :: (passed ++ w.cellsFrom fuel next drift)

end Walk

/-- The cells from one end to the other, both ends included, each once. The walk takes as many
steps as the longer axis has. -/
def walkedCells (start goal : Cell) : List Cell :=
  let w := Walk.between start goal
  (start :: w.cellsFrom (max w.rows w.cols).toNat start (w.cols - w.rows)).eraseDups

/-- The cells met on the way from `start` to `goal`, without `start` and with `goal`. The line is
always walked from the end that comes first in reading order, so that both ends see the same
cells. -/
def lineCells (start goal : Cell) : List Cell :=
  if start = goal then []
  else
    let walked := if goal < start then (walkedCells goal start).reverse else walkedCells start goal
    walked.filter (· != start)

end Reticle
