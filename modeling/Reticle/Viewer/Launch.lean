import Reticle.Report.Basic
import Reticle.Viewer.Basic
import Reticle.Viewer.CommandLine
import Reticle.Viewer.Settings

/-!
# Starting the program

What the program does before it shows anything: a report is made at once, and the viewer opens
unless it has no file, its log cannot be written, or its file cannot be read.
-/

namespace Reticle

/-- How a run of the program ends. -/
structure Ending where
  exitCode : Nat
  output : String
  errors : String
deriving DecidableEq, Repr

namespace Ending

/-- The program has done what it was asked for. -/
def done (output : String) : Ending :=
  ⟨0, output, ""⟩

/-- The program met a problem. -/
def failed (problem : Problem) : Ending :=
  ⟨1, "", problem.report⟩

/-- The command line could not be understood. -/
def misused (error : UsageError) : Ending :=
  ⟨2, "", error.message ++ "\n"⟩

end Ending

/-- The text that explains the command line. -/
def usage : String :=
  "Usage: target-viewer [--dash] [--warning <TEXT>] <FILE>\n" ++
  "       target-viewer dump [--dash] [--obstacles none|sample] [--hover <ROW,COL>] <FILE>\n"

/-- The name of the program and its version. -/
def version : String :=
  "target-viewer 0.1.0\n"

namespace Launch

/-- The session that a rule text is looked at in. Obstacles are placed before the text is read. -/
def session (options : RenderOptions) (sample : Bool) (text : String) : Session :=
  let session := Session.start .standard options
  (if sample then session.addSample else session).render text

/-- Makes a report on a rule file. -/
def dump (arguments : DumpArguments) (settings : Settings) (path : String) (file : RuleFile) :
    Ending :=
  match file.load path with
  | .error problem => .failed problem
  | .ok text =>
    let options : RenderOptions := ⟨arguments.dash || settings.dash, []⟩
    let session := session options (arguments.sample.getD false || settings.sample) text
    let session := (arguments.hover.map session.hover).getD session
    .done ((Report.ofSession session).text ++ "\n")

/-- The problem of a viewer without a file. -/
def noFile : Problem :=
  ⟨"No rule file given. Usage: target-viewer <FILE>", none⟩

/-- The problem of a log that cannot be written. -/
def noLog (directory : String) (cause : FileFailure) : Problem :=
  ⟨"Failed to create log directory: " ++ directory, some cause⟩

/-- Opens the viewer on a rule file. -/
def view (arguments : ViewArguments) (settings : Settings) (path : String) (file : RuleFile) :
    Except Problem Viewer := do
  let text ← file.load path
  let options : RenderOptions := ⟨arguments.dash || settings.dash, arguments.notes⟩
  return .start (session options settings.sample text) path settings.panelWidth

/-! ## The log -/

/-- The directory of all logs, below a cache directory. -/
def logsBelow (cache : String) : String :=
  cache ++ "/target-viewer/logs"

/-- The directory of the log of a session. A name that is a path from the root is one. -/
def logDirectory (cache sessionName : String) : String :=
  match sessionName.toList with
  | '/' :: _ => sessionName
  | _ => logsBelow cache ++ "/" ++ sessionName

/-- The name of a log file. -/
def logFileName : String :=
  "viewer.log"

/-- The steps of a relative path, without those that lead nowhere and those that are taken back; a
path that leads above its start has none. -/
def pathSteps (path : String) : Option (List String) :=
  ((Text.splitOn '/' path.toList).map String.ofList).foldlM
    (fun steps step =>
      if step = "" ∨ step = "." then some steps
      else if step = ".." then if steps.isEmpty then none else some steps.dropLast
      else some (steps ++ [step]))
    []

/-- The log file of a session as a path below the cache directory, if it lies there. -/
def logFileBelow? (sessionName : String) : Option String :=
  match sessionName.toList with
  | '/' :: _ => none
  | _ =>
    (pathSteps ("target-viewer/logs/" ++ sessionName)).map fun steps =>
      Text.join "/" (steps ++ [logFileName])

/-- The cache directory of a user: the one that the environment names by a path from the root, or
else the usual one below the home directory. -/
def cacheDirectory (lookUp : String → Option String) : String :=
  match (lookUp "XDG_CACHE_HOME").map String.toList, lookUp "HOME" with
  | some ('/' :: rest), _ => .ofList ('/' :: rest)
  | _, some home => if home.isEmpty then "/tmp" else home ++ "/.cache"
  | _, none => "/tmp"

/-! ## A run -/

/-- What a run of the program finds around it. -/
structure Surroundings (m : Type → Type) where
  settings : Settings
  /-- The cache directory of the user. -/
  cache : String
  /-- The name of a log session that was given none. -/
  newName : m String
  /-- What is found at a path. -/
  fileAt : String → m RuleFile
  /-- Creates a log in a directory. -/
  createLog : String → m (Except FileFailure Unit)

/-- What a run of the program comes to: it ends, or the viewer opens. -/
inductive Start
  | ended (ending : Ending)
  | opened (viewer : Viewer)

/-- Starts the viewer. The log is created before the rule file is read. -/
def startView {m : Type → Type} [Monad m] (s : Surroundings m) (arguments : ViewArguments) :
    m Start := do
  match arguments.file with
  | none => return .ended (.failed noFile)
  | some path =>
    let name ← s.settings.sessionName.elim s.newName pure
    let directory := logDirectory s.cache name
    match ← s.createLog directory with
    | .error cause => return .ended (.failed (noLog directory cause))
    | .ok () =>
      match view arguments s.settings path (← s.fileAt path) with
      | .error problem => return .ended (.failed problem)
      | .ok viewer => return .opened viewer

/-- Does what a command line asks for. -/
def start {m : Type → Type} [Monad m] (s : Surroundings m) (arguments : List String) :
    m Start := do
  match Invocation.ofArguments arguments with
  | .error error => return .ended (.misused error)
  | .ok .help => return .ended (.done usage)
  | .ok .version => return .ended (.done version)
  | .ok (.dump path arguments) =>
    return .ended (dump arguments s.settings path (← s.fileAt path))
  | .ok (.view arguments) => startView s arguments

end Launch

end Reticle
