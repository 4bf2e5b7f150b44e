import Reticle.Text.Blank
import Reticle.Text.Lowercase

/-!
# Rules

A rule is a list of fields in the order in which they were written. A key may be written more than
once; the last field with a key is the one that counts. Keeping all of them makes a rule that was
written in two parts the list of the first part's fields followed by the second's.
-/

namespace Reticle

/-- A field's value: one text, or the words of a bracketed list. -/
inductive FieldValue
  | scalar (text : String)
  | list (words : List String)
deriving DecidableEq, Repr

/-- The value that a text writes: a text in square brackets is the list of the words in it. -/
def FieldValue.ofText (text : String) : FieldValue :=
  match text.toList with
  | '[' :: rest =>
    match rest.reverse with
    | ']' :: inner => .list ((Text.words inner.reverse).map String.ofList)
    | _ => .scalar text
  | _ => .scalar text

/-- One written field. -/
structure Field where
  key : String
  /-- The line of the key, counted from zero. -/
  line : Nat
  /-- The value as it was written, brackets included. -/
  text : String
deriving DecidableEq, Repr

/-- The value of a field. -/
def Field.value (f : Field) : FieldValue :=
  .ofText f.text

/-- The fields of a rule text, with what could not be read. -/
structure Rule where
  /-- The lines of the text. -/
  lines : List String
  /-- The fields in the order in which they were written, with repeated keys. -/
  fields : List Field
  /-- The first line that is neither a field nor part of the frame around the fields. -/
  firstMalformed : Option Nat
deriving DecidableEq, Repr

namespace Rule

/-- The field that counts for a key. -/
def field? (r : Rule) (key : String) : Option Field :=
  r.fields.findRev? (·.key == key)

/-- The keys of a rule, each once, in ascending order. -/
def keys (r : Rule) : List String :=
  ((r.fields.map (·.key)).eraseDups).mergeSort fun a b => decide (a ≤ b)

/-- Whether a rule has no field. -/
def isEmpty (r : Rule) : Bool :=
  r.fields.isEmpty

/-- Whether a rule has a field with a key. -/
def contains (r : Rule) (key : String) : Bool :=
  (r.field? key).isSome

/-- The line of the field that counts for a key. -/
def line? (r : Rule) (key : String) : Option Nat :=
  (r.field? key).map (·.line)

/-- The text of a field that is not a list. -/
def scalar? (r : Rule) (key : String) : Option String :=
  match (r.field? key).map Field.value with
  | some (.scalar text) => some text
  | _ => none

/-- The text of a field that is not a list, if it is not blank. -/
def label? (r : Rule) (key : String) : Option String :=
  ((r.scalar? key).map Text.trimmed).filter (! ·.isEmpty)

/-- The keyword in a field: its text in lower case, without blanks around it. -/
def keyword? (r : Rule) (key : String) : Option String :=
  (r.scalar? key).map fun text => Text.asciiLowercase (Text.trimmed text)

/-- Whether a field says `true`, in any case of letters, or `1`. -/
def flag (r : Rule) (key : String) : Bool :=
  (r.scalar? key).any fun text => Text.eqIgnoringCase text "true" || text == "1"

/-- The words of a field; a text that is not blank counts as one word. -/
def words (r : Rule) (key : String) : List String :=
  match (r.field? key).map Field.value with
  | some (.list words) => words
  | some (.scalar text) => if Text.isBlankText text then [] else [Text.trimmed text]
  | none => []

end Rule

end Reticle
