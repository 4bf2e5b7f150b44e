import Reticle.Session.Basic
import Reticle.Viewer.Key
import Reticle.Viewer.RuleFile

/-!
# The viewer

A session with a cursor on the grid, a selected slider and a line of status. Every action that
means anything clears the status and leaves the cursor's cell hovered.
-/

namespace Reticle

/-- A session being looked at in a terminal. -/
structure Viewer where
  session : Session
  /-- The path of the rule file. -/
  path : String
  /-- The width of the side panel. -/
  panelWidth : Nat
  cursor : Cell
  /-- The slider selected last; there may be fewer sliders by now. -/
  lastSelected : Nat
  status : Option String

namespace Viewer

/-- Hovers over the cursor's cell. -/
def refreshHover (v : Viewer) : Viewer :=
  { v with session := v.session.hover v.cursor }

/-- Opens a session, with the cursor on the actor. -/
def start (session : Session) (path : String) (panelWidth : Nat) : Viewer :=
  refreshHover {
    session, path, panelWidth
    cursor := session.board.grid.center
    lastSelected := 0
    status := none }

/-- The sliders that can be changed. -/
def sliders (v : Viewer) : List (String × Int) :=
  v.session.sliders.adjustable

/-- The index of the selected slider, if there is any slider. -/
def selected? (v : Viewer) : Option Nat :=
  if v.sliders.isEmpty then none else some (min v.lastSelected (v.sliders.length - 1))

/-- What choosing the cursor's cell would show, if it is a target. -/
def preview (v : Viewer) : Option Preview :=
  v.session.preview v.cursor

/-- Moves the cursor, unless it would leave the grid. -/
def moveCursor (v : Viewer) (dRow dCol : Int) : Viewer :=
  let next := v.cursor.shift dRow dCol
  if v.session.board.grid.contains next then { v with cursor := next } else v

/-- Takes the obstacle under the cursor away, or else puts one there. -/
def toggleObstacle (v : Viewer) : Viewer :=
  if v.cursor = v.session.board.grid.center then
    { v with status := some "The actor's cell cannot be blocked" }
  else { v with session := v.session.toggleObstacle v.cursor }

/-- Selects another slider, around the end of the list. -/
def cycleSlider (v : Viewer) (delta : Int) : Viewer :=
  match v.selected? with
  | some index =>
    { v with lastSelected := ((index + delta) % (v.sliders.length : Int)).toNat }
  | none => v

/-- Changes the selected slider. -/
def adjustSlider (v : Viewer) (delta : Int) : Viewer :=
  match v.selected?.bind (v.sliders[·]?) with
  | some (name, value) =>
    { v with session := v.session.apply (.setSlider name (value + delta)) }
  | none => v

/-- Plays directional rules as dashes, or no longer. -/
def toggleDash (v : Viewer) : Viewer :=
  let options := { v.session.options with dash := !v.session.options.dash }
  { v with
    session := v.session.setOptions options
    status := some (if options.dash then "Dash attack on" else "Dash attack off") }

/-- Reads the rule file again. A failure only shows in the status. -/
def reload (v : Viewer) (file : RuleFile) : Viewer :=
  match file.load v.path with
  | .ok text =>
    { v with session := v.session.render text, status := some ("Reloaded " ++ v.path) }
  | .error problem => { v with status := some problem.inline }

/-- What an action does, before the hover is refreshed. -/
def perform (v : Viewer) (file : RuleFile) : Action → Viewer
  | .moveCursor dRow dCol => v.moveCursor dRow dCol
  | .centerCursor => { v with cursor := v.session.board.grid.center }
  | .toggleObstacle => v.toggleObstacle
  | .clearObstacles => { v with session := v.session.clearObstacles }
  | .addSample => { v with session := v.session.addSample }
  | .nextSlider => v.cycleSlider 1
  | .previousSlider => v.cycleSlider (-1)
  | .raiseSlider => v.adjustSlider 1
  | .lowerSlider => v.adjustSlider (-1)
  | .toggleDash => v.toggleDash
  | .reload => v.reload file
  | .quit | .ignore => v

/-- The viewer after an action, and whether the action ends it. `file` is what is found at the path
of the rule at that moment. -/
def handle (v : Viewer) (file : RuleFile) (action : Action) : Viewer × Bool :=
  match action with
  | .quit => (v, true)
  | .ignore => (v, false)
  | action => ((perform { v with status := none } file action).refreshHover, false)

end Viewer

end Reticle
