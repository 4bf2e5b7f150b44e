import Reticle.Number.Decimal
import Reticle.Plane.Cell

/-!
# The command line

`target-viewer FILE` opens the viewer and `target-viewer dump FILE` prints a report. Arguments are
read from left to right and the first fault among them ends the reading. A value can follow its
option or be joined to it by an equals sign; after two dashes everything is a file.
-/

namespace Reticle

/-- Why a command line cannot be understood. -/
inductive UsageError
  | unexpectedArgument (text : String)
  | missingValue (option : String)
  | invalidValue (option value : String)
  | repeatedOption (option : String)
  | missingFile
  | unknownCommand (name : String)
deriving DecidableEq, Repr

/-- The text shown for a fault. -/
def UsageError.message : UsageError → String
  | unexpectedArgument text => "error: unexpected argument '" ++ text ++ "' found"
  | missingValue option => "error: a value is required for '" ++ option ++ "'"
  | invalidValue option value => "error: invalid value '" ++ value ++ "' for '" ++ option ++ "'"
  | repeatedOption option => "error: '" ++ option ++ "' cannot be used multiple times"
  | missingFile => "error: the following required arguments were not provided: <FILE>"
  | unknownCommand name => "error: unrecognized subcommand '" ++ name ++ "'"

/-- What the viewer is asked to show. -/
structure ViewArguments where
  file : Option String
  dash : Bool
  notes : List String
deriving DecidableEq, Repr

/-- What is asked of a report. -/
structure DumpArguments where
  file : Option String
  dash : Bool
  /-- Place the sample obstacles; absent if nothing was said about obstacles. -/
  sample : Option Bool
  hover : Option Cell
deriving DecidableEq, Repr

/-- What a command line asks for. -/
inductive Invocation
  | view (arguments : ViewArguments)
  | dump (file : String) (arguments : DumpArguments)
  /-- Print the usage. -/
  | help
  /-- Print the version. -/
  | version
deriving DecidableEq, Repr

namespace CommandLine

/-- One argument. -/
inductive Argument
  /-- Two dashes: only files follow. -/
  | divider
  /-- An option by its name, with the value joined to it. -/
  | long (name : String) (value : Option String)
  /-- A dash and letters. -/
  | short (letters : List Char)
  | plain (text : String)
deriving DecidableEq, Repr

/-- What kind of argument a text is. A single dash is plain. -/
def Argument.ofText (text : String) : Argument :=
  match text.toList with
  | ['-', '-'] => .divider
  | '-' :: '-' :: rest =>
    match Text.cutAt '=' rest with
    | some (name, value) => .long (.ofList name) (some (.ofList value))
    | none => .long (.ofList rest) none
  | '-' :: letter :: letters => .short (letter :: letters)
  | _ => .plain text

/-- The value of an option: the one joined to it, or else the next argument if that is plain. The
arguments after the value are returned with it. -/
def takeValue (option : String) (joined : Option String) (rest : List String) :
    Except UsageError (String × List String) :=
  match joined, rest with
  | some value, rest => .ok (value, rest)
  | none, next :: rest =>
    match Argument.ofText next with
    | .plain value => .ok (value, rest)
    | _ => .error (.missingValue option)
  | none, [] => .error (.missingValue option)

/-- Taking the value of an option leaves no more words than there were, so reading the command line
ends. -/
theorem length_le_of_takeValue {option value : String} {joined : Option String}
    {rest after : List String} (h : takeValue option joined rest = .ok (value, after)) :
    after.length ≤ rest.length := by
  simp only [takeValue] at h
  split at h
  · simp only [Except.ok.injEq, Prod.mk.injEq] at h
    simp [h.2]
  · split at h
    · simp only [Except.ok.injEq, Prod.mk.injEq] at h
      simp [← h.2]
    · simp at h
  · simp at h

/-- The file that is asked for, if none was before. -/
def takeFile (file : Option String) (text : String) : Except UsageError (Option String) :=
  if file.isSome then .error (.unexpectedArgument text)
  else if text.isEmpty then .error (.missingValue "<FILE>")
  else .ok (some text)

/-- The whole number of 32 bits that a text writes. -/
def readCoordinate (text : List Char) : Option Int :=
  (Number.readInteger (Text.trim text)).filter fun n => -0x80000000 ≤ n && n < 0x80000000

/-- The cell that a text writes: a row and a column with a comma between them. -/
def readCell (text : String) : Option Cell := do
  let (row, col) ← Text.cutAt ',' text.toList
  return ⟨← readCoordinate row, ← readCoordinate col⟩

/-- The layout of obstacles that a text names. -/
def readLayout (text : String) : Option Bool :=
  if text = "none" then some false else if text = "sample" then some true else none

/-- Files only. -/
def readFiles : Option String → List String → Except UsageError (Option String)
  | file, [] => .ok file
  | file, text :: rest => do readFiles (← takeFile file text) rest

/-- Reads the arguments of the viewer. -/
def readView (arguments : ViewArguments) : List String → Except UsageError Invocation
  | [] => .ok (.view arguments)
  | text :: rest =>
    match Argument.ofText text with
    | .divider => do return .view { arguments with file := ← readFiles arguments.file rest }
    | .long "dash" none =>
      if arguments.dash then .error (.repeatedOption "--dash")
      else readView { arguments with dash := true } rest
    | .long "warning" joined =>
      match h : takeValue "--warning" joined rest with
      | .ok (note, after) =>
        have := length_le_of_takeValue h
        readView { arguments with notes := arguments.notes ++ [note] } after
      | .error error => .error error
    | .long "help" none | .short ('h' :: _) => .ok .help
    | .long "version" none | .short ('V' :: _) => .ok .version
    | .long _ _ | .short _ => .error (.unexpectedArgument text)
    | .plain file =>
      match takeFile arguments.file file with
      | .ok file => readView { arguments with file } rest
      | .error error => .error error
termination_by texts => texts.length

/-- The report that complete arguments ask for. -/
def finishDump (arguments : DumpArguments) : Except UsageError Invocation :=
  match arguments.file with
  | some file => .ok (.dump file arguments)
  | none => .error .missingFile

/-- Takes the layout of obstacles. -/
def takeLayout (arguments : DumpArguments) (text : String) : Except UsageError DumpArguments :=
  if arguments.sample.isSome then .error (.repeatedOption "--obstacles")
  else
    match readLayout text with
    | some sample => .ok { arguments with sample := some sample }
    | none => .error (.invalidValue "--obstacles" text)

/-- Takes the hovered cell. -/
def takeHover (arguments : DumpArguments) (text : String) : Except UsageError DumpArguments :=
  if arguments.hover.isSome then .error (.repeatedOption "--hover")
  else
    match readCell text with
    | some cell => .ok { arguments with hover := some cell }
    | none => .error (.invalidValue "--hover" text)

/-- Reads the arguments of a report. -/
def readDump (arguments : DumpArguments) : List String → Except UsageError Invocation
  | [] => finishDump arguments
  | text :: rest =>
    match Argument.ofText text with
    | .divider => do finishDump { arguments with file := ← readFiles arguments.file rest }
    | .long "dash" none =>
      if arguments.dash then .error (.repeatedOption "--dash")
      else readDump { arguments with dash := true } rest
    | .long "obstacles" joined =>
      match h : takeValue "--obstacles" joined rest with
      | .ok (layout, after) =>
        have := length_le_of_takeValue h
        match takeLayout arguments layout with
        | .ok arguments => readDump arguments after
        | .error error => .error error
      | .error error => .error error
    | .long "hover" joined =>
      match h : takeValue "--hover" joined rest with
      | .ok (cell, after) =>
        have := length_le_of_takeValue h
        match takeHover arguments cell with
        | .ok arguments => readDump arguments after
        | .error error => .error error
      | .error error => .error error
    | .long "help" none | .short ('h' :: _) => .ok .help
    | .long _ _ | .short _ => .error (.unexpectedArgument text)
    | .plain file =>
      match takeFile arguments.file file with
      | .ok file => readDump { arguments with file } rest
      | .error error => .error error
termination_by texts => texts.length

/-- Reads what help is asked for: on the program, or on one of its commands. -/
def readHelp : List String → Except UsageError Invocation
  | [] | ["dump"] | ["help"] => .ok .help
  | "dump" :: name :: _ | "help" :: name :: _ | name :: _ => .error (.unknownCommand name)

end CommandLine

/-- Reads a command line. The first argument can name a command; a command is a file everywhere
else. -/
def Invocation.ofArguments : List String → Except UsageError Invocation
  | "dump" :: rest => CommandLine.readDump ⟨none, false, none, none⟩ rest
  | "help" :: rest => CommandLine.readHelp rest
  | texts => CommandLine.readView ⟨none, false, []⟩ texts

end Reticle
