import Reticle.Plane.Cell

/-!
# The square grid

A grid is a square with an odd side, so that it has a middle cell; the actor stands there. It is
stored by its reach, the number of cells between the middle and an edge. The side of a grid is a
32-bit number, which bounds the reach; every value of the type is a legal grid.
-/

namespace Reticle

/-- A square of odd side; `reach` cells lie between the middle cell and each edge. -/
structure Grid where
  reach : Nat
  reach_lt : reach < 0x40000000
deriving DecidableEq, Repr

namespace Grid

/-- The grid with at least the given side: an even or non-positive side is raised to the next odd
one. No grid is larger than the largest 32-bit side. -/
def ofSide (side : Int) : Grid :=
  ⟨min (side / 2).toNat 0x3FFFFFFF, by omega⟩

/-- The grid shown when no side is asked for has fifteen cells a side. -/
def standard : Grid :=
  ofSide 15

/-- Cells along one edge. -/
def side (g : Grid) : Nat :=
  2 * g.reach + 1

/-- The side of a grid asked for: at least one, and the next odd number above an even one. -/
theorem side_ofSide {n : Int} (h : n < 0x80000000) :
    ((ofSide n).side : Int) = if n ≤ 0 then 1 else if n % 2 = 0 then n + 1 else n := by
  simp only [ofSide, side]
  split
  · omega
  · split <;> omega

/-- Every side is a 32-bit number. -/
theorem side_lt (g : Grid) : g.side < 0x80000000 := by
  have := g.reach_lt
  simp only [side]
  omega

/-- The middle cell, where the actor stands. -/
def center (g : Grid) : Cell :=
  ⟨g.reach, g.reach⟩

/-- Whether a cell lies on the grid. -/
def contains (g : Grid) (c : Cell) : Bool :=
  decide (0 ≤ c.row ∧ c.row < g.side ∧ 0 ≤ c.col ∧ c.col < g.side)

/-- The cells of a grid are those with both coordinates from zero to below the side. -/
theorem contains_iff {g : Grid} {c : Cell} :
    g.contains c = true ↔ 0 ≤ c.row ∧ c.row < g.side ∧ 0 ≤ c.col ∧ c.col < g.side := by
  simp [contains]

/-- The centre lies on every grid, also on the smallest. -/
theorem contains_center (g : Grid) : g.contains g.center = true := by
  simp only [contains_iff, center, side]
  omega

/-- All cells of the grid, row by row. -/
def cells (g : Grid) : List Cell :=
  (List.range g.side).flatMap fun (row : Nat) =>
    (List.range g.side).map fun (col : Nat) => ⟨row, col⟩

/-- The listing of a grid holds exactly the cells on it. -/
theorem mem_cells {g : Grid} {c : Cell} : c ∈ g.cells ↔ g.contains c = true := by
  obtain ⟨row, col⟩ := c
  simp only [cells, List.mem_flatMap, List.mem_range, List.mem_map, contains_iff, Cell.mk.injEq]
  constructor
  · rintro ⟨r, hr, k, hk, rfl, rfl⟩
    omega
  · intro h
    exact ⟨row.toNat, by omega, col.toNat, by omega, by omega, by omega⟩

end Grid

end Reticle
