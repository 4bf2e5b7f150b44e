/-!
# Cells and directions

Cells are addressed by row and column, rows growing downward, and are ordered row by row. A
direction is one of the eight compass steps. The lemmas beside the definitions say what a step,
a quarter turn and the sign reduction of a displacement do to the two coordinates.
-/

namespace Reticle

/-! ## Cells -/

/-- A square of the plane, addressed by row and column; rows grow downward. -/
structure Cell where
  row : Int
  col : Int
deriving DecidableEq, Repr, Inhabited

namespace Cell

/-- The reading order: row by row, and by column within a row. -/
instance : LT Cell :=
  ⟨fun a b => a.row < b.row ∨ (a.row = b.row ∧ a.col < b.col)⟩

instance (a b : Cell) : Decidable (a < b) :=
  inferInstanceAs (Decidable (a.row < b.row ∨ (a.row = b.row ∧ a.col < b.col)))

/-- Cells are compared row by row, and within a row column by column. -/
theorem lt_def {a b : Cell} : a < b ↔ a.row < b.row ∨ (a.row = b.row ∧ a.col < b.col) :=
  Iff.rfl

/-- No cell precedes itself in reading order. -/
theorem lt_irrefl (a : Cell) : ¬ a < a := by
  simp [lt_def]

/-- Reading order is transitive. -/
theorem lt_trans {a b c : Cell} (hab : a < b) (hbc : b < c) : a < c := by
  simp only [lt_def] at *
  omega

/-- Of two different cells one precedes the other in reading order. -/
theorem lt_trichotomy (a b : Cell) : a < b ∨ a = b ∨ b < a := by
  cases a
  cases b
  simp only [lt_def, mk.injEq]
  omega

/-- The cell displaced by a number of rows and columns. -/
def shift (c : Cell) (dRow dCol : Int) : Cell :=
  ⟨c.row + dRow, c.col + dCol⟩

/-- The city-block distance: rows apart plus columns apart. -/
def manhattan (a b : Cell) : Int :=
  (a.row - b.row).natAbs + (a.col - b.col).natAbs

/-- The king's-move distance: the larger of rows apart and columns apart. -/
def chebyshev (a b : Cell) : Int :=
  max (a.row - b.row).natAbs (a.col - b.col).natAbs

/-- The written form `(row, col)`. -/
def text (c : Cell) : String :=
  "(" ++ toString c.row ++ ", " ++ toString c.col ++ ")"

end Cell

/-! ## Directions -/

/-- One of the eight compass steps. -/
inductive Direction
  | north
  | south
  | west
  | east
  | northWest
  | northEast
  | southWest
  | southEast
deriving DecidableEq, Repr, Inhabited

namespace Direction

/-- Rows covered by one step. -/
def row : Direction → Int
  | north | northWest | northEast => -1
  | west | east => 0
  | south | southWest | southEast => 1

/-- Columns covered by one step. -/
def col : Direction → Int
  | west | northWest | southWest => -1
  | north | south => 0
  | east | northEast | southEast => 1

/-- The four directions along a row or a column. -/
def cardinals : List Direction :=
  [north, south, west, east]

/-- The four directions between two cardinals. -/
def diagonals : List Direction :=
  [northWest, northEast, southWest, southEast]

/-- Cardinals first, then diagonals. -/
def all : List Direction :=
  cardinals ++ diagonals

/-- The list of directions is complete. -/
theorem mem_all (d : Direction) : d ∈ all := by
  cases d <;> decide

/-- The direction whose steps have the signs of a displacement; the zero displacement has none. -/
def toward (dRow dCol : Int) : Option Direction :=
  all.find? fun d => d.row = dRow.sign ∧ d.col = dCol.sign

/-- The quarter turn that takes north to west. -/
def quarterTurn : Direction → Direction
  | north => west
  | west => south
  | south => east
  | east => north
  | northWest => southWest
  | southWest => southEast
  | southEast => northEast
  | northEast => northWest

/-- A quarter turn takes the column component, negated, for the row. -/
theorem row_quarterTurn (d : Direction) : d.quarterTurn.row = -d.col := by
  cases d <;> rfl

/-- A quarter turn takes the row component for the column. -/
theorem col_quarterTurn (d : Direction) : d.quarterTurn.col = d.row := by
  cases d <;> rfl

/-- Whether a step changes both coordinates. -/
def isDiagonal (d : Direction) : Bool :=
  d.row != 0 && d.col != 0

/-- How far a displacement reaches along the direction, in units of the direction's step. -/
def dot (d : Direction) (dRow dCol : Int) : Int :=
  d.row * dRow + d.col * dCol

/-- The squared length of one step. -/
def lengthSquared (d : Direction) : Int :=
  d.row * d.row + d.col * d.col

/-- How far a displacement reaches along the direction, in cells: diagonal steps are longer, so
they are scaled down to compete fairly with the cardinals. -/
def alignment (d : Direction) (dRow dCol : Int) : Float :=
  Float.ofInt (d.dot dRow dCol) / (Float.ofInt d.lengthSquared).sqrt

/-- Twice the square of the alignment, with the alignment's sign. It is a whole number, and it
orders directions as their alignments do. -/
def alignmentRank (d : Direction) (dRow dCol : Int) : Int :=
  let reach := d.dot dRow dCol
  let scale := if d.isDiagonal then 1 else 2
  scale * (reach * reach.natAbs)

end Direction

/-- The cell a number of steps along a direction. -/
def Cell.step (c : Cell) (d : Direction) (steps : Int) : Cell :=
  c.shift (d.row * steps) (d.col * steps)

/-- The direction from one cell to another, if they differ. -/
def Cell.directionTo (c target : Cell) : Option Direction :=
  Direction.toward (target.row - c.row) (target.col - c.col)

end Reticle
