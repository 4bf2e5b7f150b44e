import Reticle.Number.Exact
import Reticle.Plane.Grid
import Reticle.Rule.Vocabulary

/-!
# Offsets

Rules list cells by their displacement from an anchor, in rows and columns that need not be whole.
A list of offsets can be completed under a symmetry, turned towards a direction, and placed on the
grid, where every offset goes to the nearest cell.
-/

namespace Reticle

/-- A displacement in rows and columns. When offsets are turned towards a direction, the row
counts forward and the column sideways. -/
structure Offset where
  row : Float
  col : Float
deriving Repr

namespace Offset

/-- The quarter turn that takes up to the left. -/
def quarterTurn (o : Offset) : Offset :=
  ⟨-o.col, o.row⟩

/-- Rows and columns exchanged. -/
def transpose (o : Offset) : Offset :=
  ⟨o.col, o.row⟩

/-- Whether two components are equal as numbers, or both undefined and with the same sign. -/
def sameComponent (x y : Float) (xNegated yNegated : Bool) : Bool :=
  x == y || (x.isNaN && y.isNaN && xNegated == yNegated)

/-- An image of an offset under quarter turns, with the signs that its components got on the way.
The signs tell apart images whose components are undefined. -/
structure Image where
  offset : Offset
  rowNegated : Bool
  colNegated : Bool
deriving Repr

namespace Image

/-- The image after one more quarter turn. -/
def quarterTurn (i : Image) : Image :=
  ⟨i.offset.quarterTurn, !i.colNegated, i.rowNegated⟩

/-- Whether two images count as one. -/
def sameAs (i j : Image) : Bool :=
  sameComponent i.offset.row j.offset.row i.rowNegated j.rowNegated
    && sameComponent i.offset.col j.offset.col i.colNegated j.colNegated

/-- A list without the images that equal an earlier one. -/
def distinct (images : List Image) : List Image :=
  images.foldl (fun kept i => if kept.any (sameAs i) then kept else kept ++ [i]) []

end Image

/-- The four images of an offset under quarter turns. -/
def turns (o : Offset) : List Image :=
  let image : Image := ⟨o, false, false⟩
  [image, image.quarterTurn, image.quarterTurn.quarterTurn,
    image.quarterTurn.quarterTurn.quarterTurn]

/-- A list of offsets, completed under a symmetry: all images in the order of the list, each
once. -/
def symmetrize (offsets : List Offset) : Symmetry → List Offset
  | .identity => offsets
  | .fourWay => (Image.distinct (offsets.flatMap turns)).map (·.offset)
  | .eightWay =>
    (Image.distinct (offsets.flatMap turns ++ (offsets.map transpose).flatMap turns)).map (·.offset)

/-- An offset turned so that its row points along a direction. -/
def turnedTo (o : Offset) (d : Direction) : Offset :=
  let side := d.quarterTurn
  ⟨Float.ofInt d.row * o.row + Float.ofInt side.row * o.col,
    Float.ofInt d.col * o.row + Float.ofInt side.col * o.col⟩

/-- Offsets turned towards a direction; without one they stay as they are. -/
def orient (offsets : List Offset) (facing : Option Direction) : List Offset :=
  match facing with
  | some d => offsets.map (turnedTo · d)
  | none => offsets

/-- The cell nearest to an offset from an anchor; a half goes down or to the right. An offset that
is not finite leads nowhere. -/
def cellFrom? (o : Offset) (anchor : Cell) : Option Cell :=
  let row := Float.ofInt anchor.row + o.row
  let col := Float.ofInt anchor.col + o.col
  if row.isFinite && col.isFinite then some ⟨Number.round row, Number.round col⟩ else none

/-- The cells of the grid at offsets from an anchor, each once. -/
def place (grid : Grid) (anchor : Cell) (offsets : List Offset) : List Cell :=
  ((offsets.filterMap (cellFrom? · anchor)).filter grid.contains).eraseDups

/-- The placed cells are the cells of the grid that some offset leads to from the anchor; an offset
that is not defined at the anchor places nothing. -/
theorem mem_place {grid : Grid} {anchor c : Cell} {offsets : List Offset} :
    c ∈ place grid anchor offsets ↔
      grid.contains c = true ∧ ∃ o ∈ offsets, o.cellFrom? anchor = some c := by
  rw [place, List.mem_eraseDups, List.mem_filter, List.mem_filterMap]
  exact and_comm

end Offset

end Reticle
