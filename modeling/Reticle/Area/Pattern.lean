import Reticle.Area.Bounds
import Reticle.Plane.Grid

/-!
# Patterns of cells

Lines, cones, crossing lines and bands around an anchor. Every pattern is cut off at the edge of
the grid and lists each cell once, in the order in which the pattern is walked. Steps beyond twice
the side of the grid lie outside it and are not walked.
-/

namespace Reticle.Grid

/-- The cells of a list that lie on the grid, each once. -/
def clip (g : Grid) (cells : List Cell) : List Cell :=
  (cells.filter g.contains).eraseDups

/-- Clipping keeps exactly the listed cells that lie on the grid. -/
theorem mem_clip {g : Grid} {cells : List Cell} {c : Cell} :
    c ∈ g.clip cells ↔ c ∈ cells ∧ g.contains c = true := by
  rw [clip, List.mem_eraseDups, List.mem_filter]

/-- The number of steps after which every walk has left the grid. It is a 32-bit number only on grids
of at most `2 ^ 30` cells a side; `Grid.checkedWalkLimit` says so. -/
def walkLimit (g : Grid) : Int :=
  2 * g.side

/-- The cells at a number of steps along a direction. -/
def line (g : Grid) (origin : Cell) (d : Direction) (b : Bounds) : List Cell :=
  g.clip (((Steps.ofBounds b).atMost g.walkLimit).toList.map (origin.step d))

/-- The cells of lines in several directions. -/
def lines (g : Grid) (origin : Cell) (directions : List Direction) (b : Bounds) : List Cell :=
  (directions.flatMap fun d => g.line origin d b).eraseDups

/-- The cells of a cone: at each step the cell ahead and as many cells on both sides as there are
steps before the last. -/
def cone (g : Grid) (origin : Cell) (d : Direction) (b : Bounds) : List Cell :=
  g.clip (((Steps.ofBounds b).atMost g.walkLimit).toList.flatMap fun step =>
    let width := max 0 (step - 1)
    (wholeNumbers (-width) width).map ((origin.step d step).step d.quarterTurn))

/-- The cells of a line through a cell and across the facing direction, within bounds in either
order. Without a facing direction there is only the cell itself. -/
def crossLine (g : Grid) (through : Cell) (facing : Option Direction) (b : Bounds) : List Cell :=
  match facing with
  | none => [through]
  | some d =>
    let first := max (Number.ceil (Number.smaller b.min b.max)) (-g.walkLimit)
    let last := min (Number.floor (Number.larger b.min b.max)) g.walkLimit
    g.clip ((wholeNumbers first last).map (through.step d.quarterTurn))

/-- The cells whose city-block distance from a centre lies within bounds, both rounded down and
not below zero. A distance is a whole number, so it is compared with the maximum as it is. -/
def band (g : Grid) (center : Cell) (b : Bounds) : List Cell :=
  let least := max 0 (Number.floor b.min)
  let greatest := Number.exact b.max
  g.cells.filter fun c =>
    let distance := c.manhattan center
    decide (least ≤ distance) && (distance == 0 || greatest.isAtLeast distance)

end Reticle.Grid
