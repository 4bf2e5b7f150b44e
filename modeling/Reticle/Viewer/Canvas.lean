import Reticle.Text.Blank
import Reticle.Viewer.Theme

/-!
# Drawing with characters

Pictures are rows of styled characters. This module cuts texts to rows, wraps them at blanks, and
puts rows into boxes.
-/

namespace Reticle

/-- A character with its look. -/
structure Glyph where
  char : Char
  style : Style
deriving DecidableEq, Repr

/-- Rows of styled characters. -/
abbrev Picture := List (List Glyph)

/-- A text in one style. -/
def Style.write (s : Style) (text : String) : List Glyph :=
  text.toList.map (⟨·, s⟩)

namespace Glyph

/-- The empty place. -/
def space : Glyph :=
  ⟨' ', .plain⟩

/-- A row of a given width: a longer one is cut, a shorter one is filled up. -/
def fit (width : Nat) (row : List Glyph) : List Glyph :=
  row.take width ++ List.replicate (width - row.length) space

/-- A fitted row has exactly the width that was asked for. -/
theorem length_fit (width : Nat) (row : List Glyph) : (fit width row).length = width := by
  simp only [fit, List.length_append, List.length_take, List.length_replicate]
  omega

end Glyph

namespace Picture

/-- A picture of a given size: what is too much is cut, what is missing is empty. -/
def fit (width height : Nat) (p : Picture) : Picture :=
  (p.take height).map (Glyph.fit width)
    ++ List.replicate (height - p.length) (Glyph.fit width [])

/-- A line of a box between two corners. -/
def edge (width : Nat) (left right : Char) (title : String) : List Glyph :=
  let inside := width - 2
  let text := title.toList.take inside
  Style.plain.write (.ofList
    (left :: (text ++ List.replicate (inside - text.length) '─' ++ [right])))

/-- A picture in a box of a given size, with a title in its upper edge. -/
def box (width height : Nat) (title : String) (content : Picture) : Picture :=
  let bar : Glyph := ⟨'│', .plain⟩
  let rows := (fit (width - 2) (height - 2) content).map fun row => bar :: (row ++ [bar])
  (edge width '┌' '┐' title :: (rows ++ [edge width '└' '┘' ""])).take height

/-- Two pictures side by side. -/
def beside (left right : Picture) : Picture :=
  left.zipWith (· ++ ·) right

end Picture

/-! ## Wrapping -/

/-- A text that is being wrapped. -/
structure Wrapping where
  /-- The rows that are full. -/
  rows : List (List Char)
  /-- The words in the row that is not full yet. -/
  row : List Char
  /-- The blanks after them. -/
  gap : List Char
  /-- The word after those. -/
  word : List Char
  /-- The last character belongs to a word. -/
  inWord : Bool

namespace Wrapping

/-- Whether a row can be broken at a character. -/
def breaksAt (c : Char) : Bool :=
  c == '\u200B' || (Text.isBlank c && c != '\u00A0')

/-- Moves the word to the row, with the blanks before it unless the row starts there. -/
def takeWord (w : Wrapping) : Wrapping :=
  { w with
    row := (if w.row.isEmpty then [] else w.row ++ w.gap) ++ w.word
    gap := []
    word := [] }

/-- Ends the row. The blanks that would have fitted into it are dropped. -/
def endRow (w : Wrapping) (width : Nat) : Wrapping :=
  { w with rows := w.rows ++ [w.row], row := [], gap := w.gap.drop (width - w.row.length) }

/-- Takes one more character. A word is moved to the row when a blank follows it, or when it or
the blanks before it would be wider than a row. -/
def push (width : Nat) (w : Wrapping) (c : Char) : Wrapping :=
  let blank := breaksAt c
  let wordEnds := w.inWord && blank
  let tooWide := w.row.isEmpty && (width ≤ w.word.length || width ≤ w.gap.length)
  let w := if wordEnds || tooWide then w.takeWord else w
  let full := decide (width ≤ w.row.length + w.gap.length + w.word.length)
  let w := if full then w.endRow width else w
  if full && blank && w.gap.isEmpty then w
  else if blank then { w with gap := w.gap ++ [c], inWord := false }
  else { w with word := w.word ++ [c], inWord := true }

/-- All rows; there is at least one. -/
def finish (w : Wrapping) : List (List Char) :=
  let blankRow := w.row.isEmpty && w.word.isEmpty && !w.gap.isEmpty
  let rows := if blankRow then w.rows ++ [[]] else w.rows
  let last := (w.takeWord).row
  let rows := if last.isEmpty then rows else rows ++ [last]
  if rows.isEmpty then [[]] else rows

end Wrapping

/-- The rows of a text, broken at blanks where it is wider than a row. -/
def wrap (width : Nat) (text : String) : List String :=
  (text.toList.foldl (Wrapping.push width) ⟨[], [], [], [], false⟩).finish.map String.ofList

end Reticle
