import Reticle.Scenario.Memory
import Reticle.Scenario.Render
import Reticle.Session.Frame

/-!
# Sessions

A session holds what outlives a single rendering: the rule text, the board, the sliders, the
options and the hovered cell. Changing the text, the options or a slider renders the text anew;
changing the obstacles does not. Each of these changes lets go of the hovered cell. What the shown
scenario remembers of the board lasts until the text is rendered anew.
-/

namespace Reticle

/-- A rule text being looked at on a board. -/
structure Session where
  board : Board
  sliders : Sliders
  options : RenderOptions
  text : String
  outcome : Outcome
  /-- What the shown scenario remembers. -/
  memory : Memory
  hovered : Option Cell

/-- What hovering over a target shows. -/
structure Preview where
  target : Cell
  /-- The affected cells; the target alone when the rule has no area. -/
  affected : List Cell
deriving DecidableEq, Repr

/-- What choosing a cell would show, if it is a target. -/
def Outlook.recallPreview (o : Outlook) (c : Cell) : Recall (Option Preview) := do
  if ← o.recallTargetable c then
    let cells ← o.recallArea c
    return some ⟨c, if cells.isEmpty then [c] else cells⟩
  else return none

/-- The cells that are affected without a choice, as far as they are shown. -/
def Scenario.recallShown (s : Scenario) (board : Board) : Recall (List Cell) :=
  if s.alwaysShown then (s.outlook board).recallArea board.grid.center else return []

/-- One line of the rule text. -/
structure AnnotatedLine where
  index : Nat
  text : String
  /-- The error that keeps the rule from being shown points here. -/
  isError : Bool
deriving DecidableEq, Repr

namespace Session

/-- A session without text on a grid without obstacles. -/
def start (grid : Grid) (options : RenderOptions) : Session where
  board := .empty grid
  sliders := .empty
  options := options
  text := ""
  outcome := .empty
  memory := .cold
  hovered := none

/-! ## What is shown -/

/-- The rule that is shown, if it can be. -/
def rendered? (s : Session) : Option Rendered :=
  match s.outcome with
  | .ready rendered => some rendered
  | _ => none

/-- The error that keeps the rule from being shown. -/
def error? (s : Session) : Option RenderError :=
  match s.outcome with
  | .failed error => some error
  | _ => none

/-- The warnings about the rule that is shown. -/
def warnings (s : Session) : List Warning :=
  (s.rendered?.map (·.warnings)).getD []

/-- The one-line description. -/
def summary (s : Session) : String :=
  match s.outcome with
  | .empty => "No targeting data"
  | .failed _ => "Summary unavailable"
  | .ready rendered => rendered.scenario.summary

/-- What hovering over a cell would show, if it is a target. -/
def recallPreview (s : Session) (c : Cell) : Recall (Option Preview) :=
  match s.rendered? with
  | some rendered => (rendered.scenario.outlook s.board).recallPreview c
  | none => return none

/-- What hovering over the hovered cell shows. -/
def recallHover (s : Session) : Recall (Option Preview) :=
  match s.hovered with
  | some c => s.recallPreview c
  | none => return none

/-- What is to be seen of every cell. -/
def recallFrame (s : Session) : Recall Frame := do
  let grid := s.board.grid
  match s.rendered? with
  | some rendered =>
    let outlook := rendered.scenario.outlook s.board
    let shown ← rendered.scenario.recallShown s.board
    let hover ← s.recallHover
    Frame.tabulateM grid fun c => return {
      origin := c == grid.center
      blocked := s.board.isBlocked c
      inRange := ← outlook.recallTargetable c
      target := hover.any (·.target == c)
      area := shown.contains c || hover.any (·.affected.contains c) }
  | none =>
    return Frame.tabulate grid fun c =>
      { Marks.none with origin := c == grid.center, blocked := s.board.isBlocked c }

/-- What hovering over a cell would show, from what is remembered. -/
def preview (s : Session) (c : Cell) : Option Preview :=
  (s.recallPreview c s.memory).1

/-- What is to be seen of every cell, from what is remembered. -/
def frame (s : Session) : Frame :=
  (s.recallFrame s.memory).1

/-- The lines of the rule text, with the line of the error marked. -/
def annotatedLines (s : Session) : List AnnotatedLine :=
  if s.text.isEmpty then []
  else
    let marked := s.error?.bind (·.line?)
    (Text.splitOn '\n' s.text.toList).zipIdx.map fun (line, index) =>
      ⟨index, .ofList line, marked == some index⟩

/-! ## Changes -/

/-- Renders the text anew. -/
def rebuild (s : Session) : Session :=
  let result := Reticle.render s.text s.board.grid s.sliders s.options
  { s with outcome := result.1, sliders := result.2, memory := .cold, hovered := none }

/-- Takes another rule text. -/
def render (s : Session) (text : String) : Session :=
  { s with text := .ofList (Text.unixLines text.toList) }.rebuild

/-- Takes other options. -/
def setOptions (s : Session) (options : RenderOptions) : Session :=
  { s with options }.rebuild

/-- Sets a slider. The stored value is returned; a blank or reserved name is refused. -/
def setSlider? (s : Session) (name : String) (value : Int) : Option (Int × Session) :=
  (s.sliders.set? name value).map fun (stored, sliders) => (stored, { s with sliders }.rebuild)

/-- Takes the obstacle on a cell away, or else puts one there. -/
def toggleObstacle (s : Session) (c : Cell) : Session :=
  { s with board := s.board.toggle c, hovered := none }

/-- Takes all obstacles away. -/
def clearObstacles (s : Session) : Session :=
  { s with board := s.board.clear, hovered := none }

/-- Adds the sample layout of obstacles. -/
def addSample (s : Session) : Session :=
  { s with board := s.board.addSample, hovered := none }

/-- Looks at the preview of a cell; only what is remembered changes. -/
def lookAt (s : Session) (c : Cell) : Session :=
  { s with memory := (s.recallPreview c s.memory).2 }

/-- Looks at the frame; only what is remembered changes. -/
def lookAround (s : Session) : Session :=
  { s with memory := (s.recallFrame s.memory).2 }

/-- Hovers over a cell, whether or not it is a target, and looks at it. -/
def hover (s : Session) (c : Cell) : Session :=
  { s with hovered := some c }.lookAt c

/-- Hovers over no cell. -/
def unhover (s : Session) : Session :=
  { s with hovered := none }

/-- A change to a session, or a look at what it shows. -/
inductive Change
  | render (text : String)
  | setOptions (options : RenderOptions)
  | setSlider (name : String) (value : Int)
  | toggleObstacle (c : Cell)
  | clearObstacles
  | addSample
  | hover (c : Cell)
  | unhover
  | preview (c : Cell)
  | frame

/-- The session after a change. Setting a slider that is refused changes nothing. -/
def apply (s : Session) : Change → Session
  | .render text => s.render text
  | .setOptions options => s.setOptions options
  | .setSlider name value => ((s.setSlider? name value).map (·.2)).getD s
  | .toggleObstacle c => s.toggleObstacle c
  | .clearObstacles => s.clearObstacles
  | .addSample => s.addSample
  | .hover c => s.hover c
  | .unhover => s.unhover
  | .preview c => s.lookAt c
  | .frame => s.lookAround

end Session

end Reticle
