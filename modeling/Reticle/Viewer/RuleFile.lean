/-!
# Rule files

Reading a rule file: its bytes must be UTF-8, and a byte-order mark at the start does not count.
-/

namespace Reticle

/-- Why a file operation failed. -/
inductive FileFailure
  /-- A failure that the operating system reports, with its number. -/
  | system (reason : String) (number : Nat)
  /-- The bytes are no text. -/
  | notText
deriving DecidableEq, Repr

namespace FileFailure

/-- There is no such file. -/
def notFound : FileFailure :=
  system "No such file or directory" 2

/-- The file may not be read. -/
def notAllowed : FileFailure :=
  system "Permission denied" 13

/-- A part of the path before the last is no directory. -/
def notDirectory : FileFailure :=
  system "Not a directory" 20

/-- The path leads to a directory. -/
def isDirectory : FileFailure :=
  system "Is a directory" 21

/-- The failure with a number of the operating system, with another reason if it is none of the
known ones. -/
def ofNumber (number : Nat) (reason : String) : FileFailure :=
  match number with
  | 2 => notFound
  | 13 => notAllowed
  | 20 => notDirectory
  | 21 => isDirectory
  | number => system reason number

/-- The text shown for a failure. -/
def message : FileFailure → String
  | system reason number => reason ++ " (os error " ++ toString number ++ ")"
  | notText => "stream did not contain valid UTF-8"

end FileFailure

/-- A problem, with the failure that caused it. -/
structure Problem where
  message : String
  cause : Option FileFailure
deriving DecidableEq, Repr

namespace Problem

/-- A problem in one line. -/
def inline (p : Problem) : String :=
  match p.cause with
  | some cause => p.message ++ ": " ++ cause.message
  | none => p.message

/-- A problem as it is reported when the program ends because of it. -/
def report (p : Problem) : String :=
  match p.cause with
  | some cause => "Error: " ++ p.message ++ "\n\nCaused by:\n    " ++ cause.message ++ "\n"
  | none => "Error: " ++ p.message ++ "\n"

end Problem

/-- What is found at the path of a rule: its bytes, or why they cannot be had. -/
abbrev RuleFile := Except FileFailure ByteArray

namespace RuleFile

/-- A text without a byte-order mark at its start. -/
def dropMark (text : String) : String :=
  match text.toList with
  | '\uFEFF' :: rest => .ofList rest
  | _ => text

/-- The text of a rule file. -/
def load (file : RuleFile) (path : String) : Except Problem String :=
  let problem (cause : FileFailure) : Problem :=
    ⟨"Failed to read rule file: " ++ path, some cause⟩
  match file with
  | .error cause => .error (problem cause)
  | .ok bytes =>
    match String.fromUTF8? bytes with
    | some text => .ok (dropMark text)
    | none => .error (problem .notText)

end RuleFile

end Reticle
