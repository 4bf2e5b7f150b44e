import Reticle.Plane.Cell

/-!
# Segments that pass through a cell

A cell is the closed unit square around its centre. `crosses` decides whether the straight segment
between the centres of two cells runs through the square of a third, and not only past one of its
corner points. The segment is parametrised from 0 to 1 and clipped against the four sides of the
square, in exact rational arithmetic.
-/

namespace Reticle

/-- The part of a segment between two of its parameters. -/
structure Stretch where
  enter : Rat
  leave : Rat
deriving DecidableEq, Repr

namespace Stretch

/-- The whole segment. -/
def whole : Stretch :=
  ⟨0, 1⟩

/-- The part of a stretch whose parameters `t` satisfy `p * t ≤ q`, if there is any. -/
def clip (s : Stretch) (p q : Rat) : Option Stretch :=
  if p = 0 then
    if q < 0 then none else some s
  else if p < 0 then
    if s.leave < q / p then none
    else some { s with enter := if s.enter ≤ q / p then q / p else s.enter }
  else
    if q / p < s.enter then none
    else some { s with leave := if s.leave ≤ q / p then s.leave else q / p }

/-- The part of a stretch on which `from + t * by` stays within half a unit of `middle`. -/
def clipAxis (s : Stretch) (start delta middle : Rat) : Option Stretch :=
  (s.clip (-delta) (start - (middle - 1 / 2))).bind
    fun s => s.clip delta (middle + 1 / 2 - start)

end Stretch

/-- The part of the segment from `start` to `goal` that lies in the square of `cell`. -/
def stretchInside (cell start goal : Cell) : Option Stretch :=
  (Stretch.whole.clipAxis start.col (goal.col - start.col) cell.col).bind
    fun s => s.clipAxis start.row (goal.row - start.row) cell.row

/-- Whether the segment between two cell centres has more than one point in the square of `cell`.
A segment of no length crosses its own cell only. -/
def crosses (cell start goal : Cell) : Bool :=
  if start = goal then decide (cell = start)
  else
    match stretchInside cell start goal with
    | some s => decide (s.enter < s.leave)
    | none => false

end Reticle
