import Reticle.Number.Exact
import Reticle.Plane.Cell

/-!
# Checked coordinates

Coordinates are 32-bit numbers. `Plane/Cell` computes with whole numbers of any size; here the same
computations are carried out with a check after every operation, and a number that is not a 32-bit
number is a fault. So is a loop that is not done in the steps it is given. What is asked of a grid,
a board or a scenario from outside is answered by checked computations; the plain ones say what the
answer is when there is one.
-/

namespace Reticle

/-- What can go wrong in a computation on coordinates. -/
inductive Fault
  /-- A number is not a 32-bit number. -/
  | overflow
  /-- A loop is not done in the steps it is given. -/
  | unfinished
deriving DecidableEq, Repr

/-- A computation that looks at every number it comes to. -/
abbrev Checked :=
  Except Fault

/-- The number is a 32-bit number. -/
def Number.Fits (n : Int) : Prop :=
  Number.Extended.coordinateMin ≤ n ∧ n ≤ Number.Extended.coordinateMax

instance (n : Int) : Decidable (Number.Fits n) :=
  inferInstanceAs (Decidable (_ ∧ _))

/-- The number, if it is a 32-bit number. -/
def Checked.fit (n : Int) : Checked Int :=
  if Number.Fits n then .ok n else .error .overflow

open Checked

namespace Cell

/-- `Cell.shift`, checked. -/
def checkedShift (c : Cell) (dRow dCol : Int) : Checked Cell := do
  let row ← fit (c.row + dRow)
  let col ← fit (c.col + dCol)
  return ⟨row, col⟩

/-- `Cell.step`, checked. -/
def checkedStep (c : Cell) (d : Direction) (steps : Int) : Checked Cell := do
  let rows ← fit (d.row * steps)
  let cols ← fit (d.col * steps)
  c.checkedShift rows cols

/-- The rows and columns from one cell to another, checked. -/
def checkedDisplacement (c origin : Cell) : Checked (Int × Int) := do
  let dRow ← fit (c.row - origin.row)
  let dCol ← fit (c.col - origin.col)
  return (dRow, dCol)

/-- How many rows and columns two cells are apart, checked. -/
def checkedApart (a b : Cell) : Checked (Int × Int) := do
  let rows ← fit (a.row - b.row)
  let rows ← fit rows.natAbs
  let cols ← fit (a.col - b.col)
  let cols ← fit cols.natAbs
  return (rows, cols)

/-- `Cell.manhattan`, checked. -/
def checkedManhattan (a b : Cell) : Checked Int := do
  let (rows, cols) ← a.checkedApart b
  fit (rows + cols)

/-- `Cell.chebyshev`, checked. -/
def checkedChebyshev (a b : Cell) : Checked Int := do
  let (rows, cols) ← a.checkedApart b
  return max rows cols

end Cell

namespace Direction

/-- `Direction.quarterTurn`, checked. -/
def checkedQuarterTurn (d : Direction) : Checked Direction := do
  let _row ← fit (-d.col)
  return d.quarterTurn

/-- `Direction.dot`, checked. -/
def checkedDot (d : Direction) (dRow dCol : Int) : Checked Int := do
  let rows ← fit (d.row * dRow)
  let cols ← fit (d.col * dCol)
  fit (rows + cols)

/-- `Direction.alignmentRank`, checked up to where it leaves the 32-bit numbers. -/
def checkedRank (d : Direction) (dRow dCol : Int) : Checked Int := do
  let reach ← d.checkedDot dRow dCol
  let _lengthSquared ← d.checkedDot d.row d.col
  let scale := if d.isDiagonal then 1 else 2
  return scale * (reach * reach.natAbs)

end Direction

end Reticle
