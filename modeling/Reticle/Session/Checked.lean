import Reticle.Scenario.Checked
import Reticle.Session.Basic

/-!
# Sessions with checked coordinates

Rendering a text builds its scenario, and a preview or a frame asks it. Both can fault on grids
whose side is beyond what 32-bit numbers can be computed with, and then the session answers nothing.
-/

namespace Reticle

/-- `Scenario.recallShown`, checked and from no memory. -/
def Scenario.checkedShown (s : Scenario) (board : Board) : Checked (List Cell) :=
  if s.alwaysShown then s.checkedAreaCells board board.grid.center else return []

namespace Session

/-- `Session.rebuild`, checked. -/
def checkedRebuild (s : Session) : Checked Session := do
  let (outcome, sliders) ← checkedRender s.text s.board.grid s.sliders s.options
  return { s with outcome, sliders, memory := .cold, hovered := none }

/-- What hovering over a cell would show, checked. The area is asked for only if the cell is a
target. -/
def checkedPreview (s : Session) (c : Cell) : Checked (Option Preview) :=
  match s.rendered? with
  | some rendered => do
    let survey := rendered.scenario.checkedSurvey s.board
    if ← survey.isTargetable c then
      let cells ← survey.areaCells c
      return some ⟨c, if cells.isEmpty then [c] else cells⟩
    else return none
  | none => return none

/-- What hovering over the hovered cell shows, checked. -/
def checkedHover (s : Session) : Checked (Option Preview) :=
  match s.hovered with
  | some c => s.checkedPreview c
  | none => return none

/-- `Session.frame`, checked. -/
def checkedFrame (s : Session) : Checked Frame :=
  match s.rendered? with
  | some rendered => do
    let survey := rendered.scenario.checkedSurvey s.board
    let shown ← rendered.scenario.checkedShown s.board
    let hover ← s.checkedHover
    Frame.tabulateM s.board.grid fun c => return {
      origin := c == s.board.grid.center
      blocked := s.board.isBlocked c
      inRange := ← survey.isTargetable c
      target := hover.any (·.target == c)
      area := shown.contains c || hover.any (·.affected.contains c) }
  | none => return s.frame

/-- `Session.apply`, checked. -/
def checkedApply (s : Session) : Change → Checked Session
  | .render text => { s with text := .ofList (Text.unixLines text.toList) }.checkedRebuild
  | .setOptions options => { s with options }.checkedRebuild
  | .setSlider name value =>
    match s.sliders.set? name value with
    | some (_, sliders) => { s with sliders }.checkedRebuild
    | none => return s
  | .hover c => do
    let _preview ← s.checkedPreview c
    return s.hover c
  | .preview c => do
    let _preview ← s.checkedPreview c
    return s.lookAt c
  | .frame => do
    let _frame ← s.checkedFrame
    return s.lookAround
  | change => return s.apply change

end Session

end Reticle
