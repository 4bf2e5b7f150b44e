import Reticle.Viewer.Basic
import Reticle.Viewer.Canvas

/-!
# The screen

What the viewer draws. The header and the footer take the full width. Between them stand the grid
and what is under the cursor on the left, and the sliders, the warnings and the rule text on the
right.
-/

namespace Reticle

namespace Viewer

/-- Rows of the header and of the footer. -/
def barHeight : Nat :=
  3

/-- Rows of the box about the cell under the cursor. -/
def hoverHeight : Nat :=
  4

/-- The summary, and the error if there is one. -/
def headerBox (v : Viewer) (width : Nat) : Picture :=
  let error :=
    match v.session.error? with
    | some error => Style.plain.write " | " ++ Style.error.write error.message
    | none => []
  .box width barHeight ("target-viewer: " ++ v.path)
    [Style.title.write v.session.summary ++ error]

/-- The glyphs of the grid. -/
def gridRows (v : Viewer) : Picture :=
  v.session.frame.rows.zipIdx.map fun (row, rowIndex) =>
    row.zipIdx.flatMap fun (marks, colIndex) =>
      (marks.style (decide (v.cursor = ⟨rowIndex, colIndex⟩))).write marks.glyph

/-- The grid. -/
def gridBox (v : Viewer) (width : Nat) : Picture :=
  let count := v.session.board.obstacles.size
  let title := if count = 0 then "Grid" else "Grid (" ++ toString count ++ " obstacles)"
  .box width (v.session.board.grid.side + 2) title v.gridRows

/-- What choosing the cursor's cell would do. -/
def hoverRows (v : Viewer) : Picture :=
  match v.preview with
  | some preview =>
    [Style.plain.write "Target " ++ Style.title.write preview.target.text,
      Style.plain.write (toString preview.affected.length ++ " affected cells")]
  | none =>
    if v.cursor = v.session.board.grid.center then
      [Style.muted.write ("Actor " ++ v.cursor.text)]
    else [Style.muted.write (v.cursor.text ++ " is not a target")]

/-- The sliders, with the selected one set off. -/
def sliderRows (v : Viewer) : Picture :=
  if v.sliders.isEmpty then [Style.muted.write "No variables"]
  else
    v.sliders.zipIdx.map fun ((name, value), index) =>
      let style := if v.selected? = some index then Style.selected else .plain
      style.write (name ++ " = " ++ toString value)
        ++ Style.muted.write
          ("  (" ++ toString Slider.least ++ "–" ++ toString Slider.greatest ++ ")")

/-- The warnings, wrapped. -/
def warningRows (v : Viewer) (width : Nat) : Picture :=
  if v.session.warnings.isEmpty then [Style.muted.write "None"]
  else
    v.session.warnings.flatMap fun warning =>
      (wrap width ("! " ++ warning.message)).map Style.warning.write

/-- The rule text with line numbers; the line of an error is set off. -/
def textRows (v : Viewer) : Picture :=
  v.session.annotatedLines.map fun line =>
    let style := if line.isError then { Style.error with underlined := true } else .plain
    Style.muted.write (Text.padStart 3 (toString (line.index + 1)) ++ " ") ++ style.write line.text

/-- The title of the rule text. -/
def textTitle (v : Viewer) : String :=
  match v.session.outcome with
  | .empty => "Rule (empty)"
  | .failed _ => "Rule (error)"
  | .ready _ => "Rule"

/-- The boxes on the right. -/
def sideBoxes (v : Viewer) (height : Nat) : Picture :=
  let width := v.panelWidth
  let sliderHeight := max 1 v.sliders.length + 2
  let warningHeight := max 1 v.session.warnings.length + 2
  .box width sliderHeight "Variables" v.sliderRows
    ++ .box width warningHeight "Warnings" (v.warningRows (width - 2))
    ++ .box width (height - sliderHeight - warningHeight) v.textTitle v.textRows

/-- The keys, or the status if there is one. -/
def footerRow (v : Viewer) : List Glyph :=
  match v.status with
  | some status => Style.warning.write status
  | none =>
    Style.plain.write
      ("[hjkl/Arrows] Move | [Space] Obstacle | [c] Clear | [s] Sample | [Tab/+/-] Variables | "
        ++ (if v.session.options.dash then "[d] Dash: on | " else "[d] Dash: off | ")
        ++ "[r] Reload | [q] Quit")

/-- The whole screen. -/
def screen (v : Viewer) (width height : Nat) : Picture :=
  let bodyHeight := height - 2 * barHeight
  let leftWidth := width - v.panelWidth
  let left :=
    (v.gridBox leftWidth ++ .box leftWidth hoverHeight "Hover" v.hoverRows)
  let body :=
    (Picture.fit leftWidth bodyHeight left).beside
      (Picture.fit v.panelWidth bodyHeight (v.sideBoxes bodyHeight))
  v.headerBox width ++ body ++ .box width barHeight "" [v.footerRow]

end Viewer

/-- A stretch of a row in which all characters look the same. -/
structure StyleRun where
  row : Nat
  col : Nat
  length : Nat
  style : Style
deriving DecidableEq, Repr

namespace Picture

/-- The text of each row. -/
def texts (p : Picture) : List String :=
  p.map fun row => .ofList (row.map (·.char))

/-- The stretches of equal look in a row, from a column on. -/
def rowRuns (row col : Nat) : List Glyph → List StyleRun
  | [] => []
  | g :: rest =>
    match rowRuns row (col + 1) rest with
    | run :: runs =>
      if run.style = g.style then ⟨row, col, run.length + 1, run.style⟩ :: runs
      else ⟨row, col, 1, g.style⟩ :: run :: runs
    | [] => [⟨row, col, 1, g.style⟩]

/-- The stretches of a picture that do not look plain, row by row. -/
def styleRuns (p : Picture) : List StyleRun :=
  (p.zipIdx.flatMap fun (row, index) => rowRuns index 0 row).filter (·.style != .plain)

end Picture

end Reticle
