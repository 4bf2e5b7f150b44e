import Reticle.Viewer.Launch
import Reticle.Viewer.Screen

/-!
# The program

The outer layer: it reads the arguments, the environment, the rule file and the keys, and prints
what the library answers. The viewer takes the keys of a line when the line is ended.
-/

namespace Reticle.Program

/-- The failure that the operating system reported. -/
def failureOf (error : IO.Error) : FileFailure :=
  match error with
  | .noFileOrDirectory _ number reason
  | .permissionDenied _ number reason
  | .inappropriateType _ number reason
  | .invalidArgument _ number reason
  | .resourceExhausted _ number reason
  | .alreadyExists _ number reason
  | .noSuchThing _ number reason
  | .otherError number reason => .ofNumber number.toInt32.toInt.natAbs reason
  | error => .system (toString error) 0

/-- What is found at a path. -/
def readFile (path : String) : IO RuleFile := do
  try
    return .ok (← IO.FS.readBinFile path)
  catch error =>
    return .error (failureOf error)

/-- The values of the variables of the environment that matter. -/
def environment : IO (String → Option String) := do
  let names := "XDG_CACHE_HOME" :: "HOME" :: Settings.variableNames
  let values ← names.mapM fun name => return (name, ← IO.getEnv name)
  return fun name => (values.lookup name).join

/-- Creates a directory and those above it, given the steps of its path from the last one on. -/
def createDirectory : List String → IO Unit
  | [] => return
  | step :: above => do
    let path := Text.join "/" (step :: above).reverse
    try
      IO.FS.createDir path
    catch
      | .alreadyExists .. => return
      | .noFileOrDirectory .. =>
        createDirectory above
        IO.FS.createDir path
      | error => throw error

/-- Creates an empty log in a directory. -/
def createLog (directory : String) : IO (Except FileFailure Unit) := do
  try
    createDirectory ((Text.splitOn '/' directory.toList).map String.ofList).reverse
    IO.FS.writeFile (directory ++ "/" ++ Launch.logFileName) ""
    return .ok ()
  catch error =>
    return .error (failureOf error)

/-- What the program finds around it. -/
def surroundings : IO (Launch.Surroundings IO) := do
  let lookUp ← environment
  return {
    settings := .ofEnvironment lookUp
    cache := Launch.cacheDirectory lookUp
    newName := return "session_" ++ toString (← IO.monoMsNow)
    fileAt := readFile
    createLog }

/-- Takes keys one after the other until one of them ends the viewer. -/
def press (v : Viewer) : List Char → IO (Viewer × Bool)
  | [] => return (v, false)
  | c :: rest => do
    let (v, exit) := v.handle (← readFile v.path) (Key.ofTyped c).action
    if exit then return (v, true) else press v rest

/-- Columns of the screen besides the side panel. -/
def leftColumns : Nat :=
  64

/-- Rows of the screen. -/
def screenRows : Nat :=
  32

/-- Draws the screen and takes the next line of keys until the viewer ends. -/
partial def run (v : Viewer) : IO Unit := do
  for row in (v.screen (leftColumns + v.panelWidth) screenRows).texts do
    IO.println row
  let line ← (← IO.getStdin).getLine
  unless line.isEmpty do
    let (v, exit) ← press v (line.toList.filter (· != '\n'))
    unless exit do run v

end Reticle.Program

open Reticle Reticle.Program in
/-- Runs the program on its command line. -/
def main (arguments : List String) : IO UInt32 := do
  match ← Launch.start (← surroundings) arguments with
  | .ended ending =>
    IO.print ending.output
    IO.eprint ending.errors
    return ending.exitCode.toUInt32
  | .opened viewer =>
    run viewer
    return 0
