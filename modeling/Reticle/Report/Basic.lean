import Reticle.Report.Json
import Reticle.Session.Basic

/-!
# Reports

What a session shows, as data for other programs.
-/

namespace Reticle

/-- What a session shows. -/
structure Report where
  summary : String
  error : Option RenderError
  warnings : List Warning
  sliders : List (String × Int)
  frame : Frame

namespace Report

/-- The report on a session. -/
def ofSession (s : Session) : Report where
  summary := s.summary
  error := s.error?
  warnings := s.warnings
  sliders := s.sliders.adjustable
  frame := s.frame

/-- A warning, tagged with its kind. -/
def warningJson : Warning → Json
  | .unsupportedField field => .object [("UnsupportedField", .text field)]
  | .unsupportedRestriction field token =>
    .object [("UnsupportedRestriction", .object [("field", .text field), ("token", .text token)])]
  | .ignoredRestriction field token =>
    .object [("IgnoredRestriction", .object [("field", .text field), ("token", .text token)])]
  | .unrecognizedValue field value =>
    .object [("UnrecognizedValue", .object [("field", .text field), ("value", .text value)])]
  | .extra note => .object [("Extra", .text note)]

/-- A frame; the marks of a cell are their names. -/
def frameJson (f : Frame) : Json :=
  .object [
    ("size", .number f.grid.side),
    ("rows", .list (f.rows.map fun row =>
      .list (row.map fun marks => .text (Text.join " | " marks.names))))]

/-- A report as JSON. -/
def toJson (r : Report) : Json :=
  .object [
    ("summary", .text r.summary),
    ("error", .ofOption (fun e => .text e.message) r.error),
    ("error_line", .ofOption (fun (line : Nat) => .number line) (r.error.bind (·.line?))),
    ("warnings", .list (r.warnings.map warningJson)),
    ("variables", .list (r.sliders.map fun (name, value) => .list [.text name, .number value])),
    ("grid", frameJson r.frame)]

/-- A report as text. -/
def text (r : Report) : String :=
  r.toJson.render 0

end Report

end Reticle
