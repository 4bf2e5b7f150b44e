import Reticle.Session.Frame

/-!
# Colours and glyphs

How cells and texts look. A cell is two columns wide, so that the grid looks square. The affected
area also shows in the background, where no glyph hides it.
-/

namespace Reticle

/-- A colour of the terminal. -/
inductive Color
  | black
  | gray
  | darkGray
  | yellow
  | cyan
  | lightRed
  | lightMagenta
  | lightCyan
  | rgb (red green blue : UInt8)
deriving DecidableEq, Repr

namespace Color

/-- Two hexadecimal digits. -/
def hexByte (n : UInt8) : String :=
  let digits := (Nat.toDigits 16 n.toNat).map Char.toUpper
  .ofList (List.replicate (2 - digits.length) '0' ++ digits)

/-- The name of a colour. -/
def name : Color → String
  | black => "Black"
  | gray => "Gray"
  | darkGray => "DarkGray"
  | yellow => "Yellow"
  | cyan => "Cyan"
  | lightRed => "LightRed"
  | lightMagenta => "LightMagenta"
  | lightCyan => "LightCyan"
  | rgb red green blue => "#" ++ hexByte red ++ hexByte green ++ hexByte blue

end Color

/-- How a character looks. -/
structure Style where
  foreground : Option Color
  background : Option Color
  bold : Bool
  underlined : Bool
  reversed : Bool
deriving DecidableEq, Repr

namespace Style

/-- The look of plain text. -/
def plain : Style :=
  ⟨none, none, false, false, false⟩

/-- Text in a colour. -/
def colored (color : Color) : Style :=
  { plain with foreground := some color }

/-- The names of the modifiers. -/
def modifiers (s : Style) : List String :=
  (if s.bold then ["BOLD"] else []) ++ (if s.underlined then ["UNDERLINED"] else [])
    ++ (if s.reversed then ["REVERSED"] else [])

/-- Titles. -/
def title : Style :=
  { colored .cyan with bold := true }

/-- Errors. -/
def error : Style :=
  { colored .lightRed with bold := true }

/-- Warnings and the status. -/
def warning : Style :=
  colored .yellow

/-- The selected slider. -/
def selected : Style :=
  { colored .black with background := some .cyan, bold := true }

/-- What should not catch the eye. -/
def muted : Style :=
  colored .darkGray

end Style

namespace Marks

/-- The glyph of a cell. -/
def glyph (m : Marks) : String :=
  if m.origin then "@ "
  else if m.blocked then "##"
  else if m.target then "X "
  else if m.area then "* "
  else if m.inRange then "+ "
  else ". "

/-- The look of a cell's glyph. -/
def glyphStyle (m : Marks) : Style :=
  if m.origin then { Style.colored .yellow with bold := true }
  else if m.blocked then .colored .gray
  else if m.target then { Style.colored .lightMagenta with bold := true }
  else if m.area then .colored .lightRed
  else if m.inRange then .colored .lightCyan
  else .colored .darkGray

/-- The background of a cell. -/
def background? (m : Marks) : Option Color :=
  if m.area then some (.rgb 70 20 20)
  else if m.inRange then some (.rgb 20 30 50)
  else Option.none

/-- The look of a cell; it is reversed under the cursor. -/
def style (m : Marks) (underCursor : Bool) : Style :=
  { m.glyphStyle with background := m.background?, reversed := underCursor }

end Marks

end Reticle
