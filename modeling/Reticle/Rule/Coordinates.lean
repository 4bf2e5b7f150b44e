import Reticle.Area.Offset
import Reticle.Number.Decimal
import Reticle.Rule.Basic

/-!
# Coordinate lists

The fields `custom_aoe` and `custom_range` list offsets as pairs in square brackets. A value
without any such pair is read as bare numbers, two at a time. Numbers may carry further characters
behind them, which do not count.
-/

namespace Reticle.Rule

/-- The texts between an opening square bracket and the next one, if that closes. `inside` is the
text since the last opening bracket, in reverse. Empty texts do not count. -/
def bracketedAfter (inside : Option (List Char)) : List Char → List (List Char)
  | [] => []
  | '[' :: rest => bracketedAfter (some []) rest
  | ']' :: rest =>
    match inside with
    | some (c :: before) => (c :: before).reverse :: bracketedAfter none rest
    | _ => bracketedAfter none rest
  | c :: rest => bracketedAfter (inside.map (c :: ·)) rest

/-- The texts in the innermost square brackets of a text, in order. -/
def bracketed (text : List Char) : List (List Char) :=
  bracketedAfter none text

/-- The offset that two texts write, if both start with a finite number. -/
def readPair (row col : List Char) : Option Offset := do
  return ⟨← Number.readLeading row, ← Number.readLeading col⟩

/-- The offset in one pair of brackets: the first two parts between commas and spaces. -/
def readBracketed (text : List Char) : Option Offset :=
  match Text.runs (fun c => c == ',' || c == ' ') text with
  | row :: col :: _ => readPair row col
  | _ => none

/-- The offsets of texts, two at a time; a last one without a partner does not count. -/
def readTwoByTwo : List (List Char) → List Offset
  | row :: col :: rest => (readPair row col).toList ++ readTwoByTwo rest
  | _ => []

/-- A word without square brackets and commas. -/
def bareWord (word : List Char) : List Char :=
  word.filter fun c => c != '[' && c != ']' && c != ','

/-- The offsets that a field lists. -/
def Field.offsets (f : Field) : List Offset :=
  let pairs := (bracketed f.text.toList).filterMap readBracketed
  if !pairs.isEmpty then pairs
  else
    match f.value with
    | .list words =>
      readTwoByTwo ((words.map fun w => bareWord w.toList).filter (! ·.isEmpty))
    | .scalar _ => []

/-- The offsets that the field with a key lists. -/
def offsets (r : Rule) (key : String) : List Offset :=
  ((r.field? key).map Field.offsets).getD []

/-- The offsets of the area, completed under its symmetry. -/
def areaOffsets (r : Rule) : List Offset :=
  Offset.symmetrize (r.offsets "custom_aoe") (.ofField (r.scalar? "aoe_symmetry"))

/-- The offsets of the range, completed under its symmetry. -/
def rangeOffsets (r : Rule) : List Offset :=
  Offset.symmetrize (r.offsets "custom_range") (.ofField (r.scalar? "range_symmetry"))

end Reticle.Rule
