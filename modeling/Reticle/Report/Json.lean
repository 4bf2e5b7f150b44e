import Reticle.Text.Split

/-!
# JSON

Values as they occur in reports, and their text: objects and lists over several lines, indented by
two spaces, and strings in which quotes, backslashes and control characters are escaped.
-/

namespace Reticle

/-- A value of a report. -/
inductive Json
  | null
  | number (n : Int)
  | text (s : String)
  | list (items : List Json)
  | object (members : List (String × Json))

namespace Json

/-- Four hexadecimal digits of a control character. -/
def controlCode (c : Char) : List Char :=
  let digits := Nat.toDigits 16 c.toNat
  List.replicate (4 - digits.length) '0' ++ digits

/-- A character inside a string. -/
def escape (c : Char) : List Char :=
  match c with
  | '"' => ['\\', '"']
  | '\\' => ['\\', '\\']
  | '\n' => ['\\', 'n']
  | '\r' => ['\\', 'r']
  | '\t' => ['\\', 't']
  | '\x08' => ['\\', 'b']
  | '\x0c' => ['\\', 'f']
  | c => if c.toNat < 0x20 then '\\' :: 'u' :: controlCode c else [c]

/-- A string with its quotes. -/
def quote (s : String) : String :=
  .ofList ('"' :: (s.toList.flatMap escape ++ ['"']))

/-- A line break and the indentation of a level. -/
def newLine (level : Nat) : String :=
  .ofList ('\n' :: List.replicate (2 * level) ' ')

/-- Items between brackets, one a line. -/
def enclose (opening closing : String) (level : Nat) : List String → String
  | [] => opening ++ closing
  | items =>
    opening ++ newLine (level + 1) ++ Text.join ("," ++ newLine (level + 1)) items
      ++ newLine level ++ closing

mutual

/-- The text of a value at a level of indentation. -/
def render (level : Nat) : Json → String
  | null => "null"
  | number n => toString n
  | text s => quote s
  | list items => enclose "[" "]" level (renderList (level + 1) items)
  | object members => enclose "\x7b" "\x7d" level (renderMembers (level + 1) members)

/-- The texts of the items of a list. -/
def renderList (level : Nat) : List Json → List String
  | [] => []
  | item :: items => item.render level :: renderList level items

/-- The texts of the members of an object. -/
def renderMembers (level : Nat) : List (String × Json) → List String
  | [] => []
  | (key, value) :: members =>
    (quote key ++ ": " ++ value.render level) :: renderMembers level members

end

/-- An optional value. -/
def ofOption {α : Type} (encode : α → Json) : Option α → Json
  | some value => encode value
  | none => null

end Json

end Reticle
