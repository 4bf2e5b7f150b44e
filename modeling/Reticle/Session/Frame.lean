import Reticle.Scenario.Basic

/-!
# Frames

A frame says of every cell of the grid what is to be seen there.
-/

namespace Reticle

/-- What is to be seen at a cell. -/
structure Marks where
  /-- The actor stands here. -/
  origin : Bool
  /-- An obstacle stands here. -/
  blocked : Bool
  /-- The cell is targetable. -/
  inRange : Bool
  /-- The cell is the chosen target. -/
  target : Bool
  /-- The cell is affected. -/
  area : Bool
deriving DecidableEq, Repr

namespace Marks

/-- Nothing is to be seen. -/
def none : Marks :=
  ⟨false, false, false, false, false⟩

/-- The marks with the bits of a number; further bits do not count. -/
def ofBits (bits : Nat) : Marks :=
  ⟨bits.testBit 0, bits.testBit 1, bits.testBit 2, bits.testBit 3, bits.testBit 4⟩

/-- The number whose bits are the marks. -/
def bits (m : Marks) : Nat :=
  m.origin.toNat + 2 * m.blocked.toNat + 4 * m.inRange.toNat + 8 * m.target.toNat
    + 16 * m.area.toNat

/-- Marks are read back from the bits they are written as. -/
theorem ofBits_bits (m : Marks) : ofBits m.bits = m := by
  obtain ⟨a, b, c, d, e⟩ := m
  cases a <;> cases b <;> cases c <;> cases d <;> cases e <;> rfl

/-- Whether all marks of another value are present. -/
def includes (m other : Marks) : Bool :=
  (m.origin || !other.origin) && (m.blocked || !other.blocked) && (m.inRange || !other.inRange)
    && (m.target || !other.target) && (m.area || !other.area)

/-- The names of the marks that are present. -/
def names (m : Marks) : List String :=
  (if m.origin then ["ORIGIN"] else []) ++ (if m.blocked then ["BLOCKED"] else [])
    ++ (if m.inRange then ["IN_RANGE"] else []) ++ (if m.target then ["TARGET"] else [])
    ++ (if m.area then ["AOE"] else [])

end Marks

/-- The marks of all cells of a grid, row by row. -/
structure Frame where
  grid : Grid
  rows : List (List Marks)

namespace Frame

/-- The frame in which every cell has the marks that a function gives. -/
def tabulate (grid : Grid) (marks : Cell → Marks) : Frame :=
  ⟨grid, (List.range grid.side).map fun (row : Nat) =>
    (List.range grid.side).map fun (col : Nat) => marks ⟨row, col⟩⟩

/-- The frame in which every cell has the marks that an action gives, row by row. -/
def tabulateM {m : Type → Type} [Monad m] (grid : Grid) (marks : Cell → m Marks) : m Frame := do
  let rows ← (List.range grid.side).mapM fun (row : Nat) =>
    (List.range grid.side).mapM fun (col : Nat) => marks ⟨row, col⟩
  return ⟨grid, rows⟩

/-- The marks of a cell; off the grid there is nothing to be seen. -/
def marksAt (f : Frame) (c : Cell) : Marks :=
  if f.grid.contains c then
    ((f.rows[c.row.toNat]?).bind (·[c.col.toNat]?)).getD .none
  else .none

/-- The cells that carry all of the given marks, row by row. -/
def cellsWith (f : Frame) (marks : Marks) : List Cell :=
  f.grid.cells.filter fun c => (f.marksAt c).includes marks

/-- A tabulated frame has at each cell of the grid the marks it was made from. -/
theorem marksAt_tabulate {grid : Grid} {marks : Cell → Marks} {c : Cell}
    (h : grid.contains c = true) : (tabulate grid marks).marksAt c = marks c := by
  obtain ⟨row, col⟩ := c
  have hb := Grid.contains_iff.1 h
  simp only at hb
  have hrow : row.toNat < grid.side := by omega
  have hcol : col.toNat < grid.side := by omega
  simp only [marksAt, tabulate, h, if_true, List.getElem?_map, List.getElem?_range hrow,
    List.getElem?_range hcol, Option.map_some, Option.bind_some, Option.getD_some]
  congr 2 <;> omega

end Frame

end Reticle
