import Reticle.Plane.Cell
import Reticle.Text.Blank
import Reticle.Text.Lowercase

/-!
# The words of rules

The keywords that a rule can use for its modes, its symmetry and its restrictions. Keywords are
read in any case of ASCII letters; each has one canonical spelling.
-/

namespace Reticle

/-- The first entry of a table whose word agrees with a given one up to the case of letters. -/
def lookUpWord {α : Type} (table : List (String × α)) (word : String) : Option α :=
  (table.find? fun entry => Text.eqIgnoringCase entry.1 word).map (·.2)

/-! ## Target modes -/

/-- How the actor selects a target. -/
inductive TargetMode
  /-- The actor's own cell. -/
  | none
  | tile
  /-- One of the four cardinal directions. -/
  | direction
  /-- One of the eight directions. -/
  | direction8
deriving DecidableEq, Repr

namespace TargetMode

/-- The canonical spelling. -/
def name : TargetMode → String
  | none => "none"
  | tile => "tile"
  | direction => "direction"
  | direction8 => "direction8"

/-- All modes, in the order of their definition. -/
def all : List TargetMode :=
  [none, tile, direction, direction8]

/-- The mode with a given spelling. -/
def ofName? (word : String) : Option TargetMode :=
  lookUpWord (all.map fun m => (m.name, m)) word

/-- The directions that can be selected. -/
def directions : TargetMode → List Direction
  | direction8 => Direction.all
  | _ => Direction.cardinals

end TargetMode

/-! ## Range modes -/

/-- Which cells count as in range. -/
inductive RangeMode
  /-- A band of city-block distance. -/
  | standard
  /-- A band of king's-move distance. -/
  | square
  | cross
  | diagonalCross
  | eightCross
  /-- The cells listed by the rule. -/
  | custom
deriving DecidableEq, Repr

namespace RangeMode

/-- The canonical spelling. -/
def name : RangeMode → String
  | standard => "standard"
  | square => "square"
  | cross => "cross"
  | diagonalCross => "diagcross"
  | eightCross => "8cross"
  | custom => "custom"

/-- All modes, in the order of their definition. -/
def all : List RangeMode :=
  [standard, square, cross, diagonalCross, eightCross, custom]

/-- The mode with a given spelling. -/
def ofName? (word : String) : Option RangeMode :=
  lookUpWord (all.map fun m => (m.name, m)) word

/-- The directions of the lines that make up the range, for the cross family. -/
def lineDirections? : RangeMode → Option (List Direction)
  | cross => some Direction.cardinals
  | diagonalCross => some Direction.diagonals
  | eightCross => some Direction.all
  | standard | square | custom => Option.none

end RangeMode

/-! ## Area modes -/

/-- Which cells around a target are affected. -/
inductive AreaMode
  /-- A band of city-block distance. -/
  | standard
  /-- The cells listed by the rule. -/
  | custom
  /-- A line across the facing direction. -/
  | perpendicular
  | cross
  | diagonalCross
  | eightCross
  | all
  | line
  | cone
deriving DecidableEq, Repr

namespace AreaMode

/-- The canonical spelling. -/
def name : AreaMode → String
  | standard => "standard"
  | custom => "custom"
  | perpendicular => "perpline"
  | cross => "cross"
  | diagonalCross => "diagcross"
  | eightCross => "8cross"
  | all => "all"
  | line => "line"
  | cone => "cone"

/-- All modes, in the order of their definition. -/
def modes : List AreaMode :=
  [standard, custom, perpendicular, cross, diagonalCross, eightCross, all, line, cone]

/-- The mode with a given spelling. -/
def ofName? (word : String) : Option AreaMode :=
  lookUpWord (modes.map fun m => (m.name, m)) word

/-- The directions of the lines that make up the area, for the cross family. -/
def lineDirections? : AreaMode → Option (List Direction)
  | cross => some Direction.cardinals
  | diagonalCross => some Direction.diagonals
  | eightCross => some Direction.all
  | _ => Option.none

end AreaMode

/-! ## Symmetries -/

/-- Under which turns and reflections a list of offsets is completed. -/
inductive Symmetry
  /-- The list is used as written. -/
  | identity
  /-- The quarter turns. -/
  | fourWay
  /-- The quarter turns, and the quarter turns after swapping rows and columns. -/
  | eightWay
deriving DecidableEq, Repr

namespace Symmetry

/-- The canonical spelling. -/
def name : Symmetry → String
  | identity => "identity"
  | fourWay => "four_way"
  | eightWay => "eight_way"

/-- All spellings; some symmetries have a second one. -/
def spellings : List (String × Symmetry) :=
  [("identity", identity), ("four_way", fourWay), ("four-way", fourWay),
    ("eight_way", eightWay), ("eight-way", eightWay)]

/-- The symmetry with a given spelling. -/
def ofName? (word : String) : Option Symmetry :=
  lookUpWord spellings word

/-- The symmetry that a field asks for; an absent or unknown one asks for none. -/
def ofField (value : Option String) : Symmetry :=
  (value.bind fun word => ofName? (Text.trimmed word)).getD identity

end Symmetry

/-! ## Restrictions -/

/-- A further condition on targets. -/
inductive Restriction
  | straightShot
  | mustMove
  | lineOfSight
  | fitTwoByTwo
  | mustBeMoveable
deriving DecidableEq, Repr

namespace Restriction

/-- All restrictions, in the order of their definition. -/
def all : List Restriction :=
  [straightShot, mustMove, lineOfSight, fitTwoByTwo, mustBeMoveable]

/-- All spellings; line of sight has several. -/
def spellings : List (String × Restriction) :=
  [("straight_shot", straightShot), ("must_move", mustMove),
    ("must_have_line_of_sight", lineOfSight),
    ("must_have_line_of_sight_unpurgable", lineOfSight),
    ("requires_line_of_sight", lineOfSight), ("needs_los", lineOfSight),
    ("line_of_sight", lineOfSight), ("must_fit_2x2_character", fitTwoByTwo),
    ("must_be_moveable", mustBeMoveable)]

/-- The restriction that a token names; blanks around the token do not count. -/
def ofToken? (token : String) : Option Restriction :=
  lookUpWord spellings (Text.trimmed token)

end Restriction

/-- Whether a set of restrictions asks for a clear path; a straight shot does. -/
def requiresLine (restrictions : List Restriction) : Bool :=
  restrictions.contains .lineOfSight || restrictions.contains .straightShot

end Reticle
