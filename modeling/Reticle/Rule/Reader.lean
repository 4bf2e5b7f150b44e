import Reticle.Rule.Basic

/-!
# Reading rule texts

A rule text has one field a line: a key, a space and a value. Blank lines and the two lines of a
frame around the fields do not count. The value of `custom_aoe` may go on over several lines until
its square brackets are closed. Reading never fails; the first line that is nothing of this is
remembered.

Lines are read one after the other from the state in which the lines before them left the reader,
so reading two texts after one another is reading the second from where the first one ended.
-/

namespace Reticle.Rule

/-- The key whose bracketed value can go on over several lines. -/
def multilineKey : String :=
  "custom_aoe"

/-- The lines around the fields, which carry no field. -/
def frameLines : List String :=
  ["target \x7b", "\x7d"]

/-- Opening less closing square brackets in a text. -/
def bracketDepth (text : List Char) : Int :=
  (text.count '[' : Int) - text.count ']'

/-- What the reader knows between two lines. -/
structure Progress where
  /-- The fields that are complete. -/
  fields : List Field
  firstMalformed : Option Nat
  /-- A field whose brackets are still open, with the number of them. -/
  pending : Option (Field × Int)
deriving DecidableEq, Repr

namespace Progress

/-- Nothing was read. -/
def start : Progress :=
  ⟨[], none, none⟩

/-- Takes a field, which stays open while its brackets are. -/
def take (p : Progress) (f : Field) (depth : Int) : Progress :=
  if 0 < depth then { p with pending := some (f, depth) }
  else { p with fields := p.fields ++ [f], pending := none }

/-- Reads the line with a given number. -/
def readLine (p : Progress) (number : Nat) (line : List Char) : Progress :=
  let text := Text.trim line
  match p.pending with
  | some (f, depth) =>
    p.take { f with text := f.text ++ " " ++ .ofList text } (depth + bracketDepth text)
  | none =>
    if text.isEmpty || frameLines.contains (.ofList text) then p
    else
      match Text.cutAt ' ' text with
      | none => { p with firstMalformed := p.firstMalformed <|> some number }
      | some (key, rest) =>
        let key := String.ofList (Text.trim key)
        let value := Text.trim rest
        let isOpen := key == multilineKey && value.head? == some '['
        p.take ⟨key, number, .ofList value⟩ (if isOpen then bracketDepth value else 0)

/-- All fields; one that is still open ends with the text. -/
def allFields (p : Progress) : List Field :=
  p.fields ++ (p.pending.map (·.1)).toList

end Progress

/-- The lines of a text, whichever line ends it uses. -/
def textLines (text : String) : List (List Char) :=
  Text.splitOn '\n' (Text.unixLines text.toList)

/-- The progress after reading lines, the first of which has a given number. -/
def readLines (p : Progress) (number : Nat) (lines : List (List Char)) : Progress :=
  (lines.zipIdx number).foldl (fun p (line, number) => p.readLine number line) p

/-- The rule that a text writes. -/
def ofText (text : String) : Rule :=
  let lines := textLines text
  let progress := readLines .start 0 lines
  ⟨lines.map String.ofList, progress.allFields, progress.firstMalformed⟩

end Reticle.Rule
