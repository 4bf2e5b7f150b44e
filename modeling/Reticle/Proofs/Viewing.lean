import Reticle.Proofs.Frames
import Reticle.Proofs.LookingTwice
import Reticle.Viewer.Basic

/-!
# Viewers

An action changes the session as changes do and keeps the cursor on the grid
(`Viewer.follows_perform`); then the cursor's cell is hovered, whatever the session did to its hover.
So for all keys and files the session stays settled, the cursor stays on the grid, and refreshing the
hover finds nothing to do (`Viewer.Ready.run`). What the viewer shows of its cursor and its sliders
follows from that (`Viewer.coupled_run`).
-/

namespace Reticle

namespace Viewer

/-! ## What an action does -/

/-- A viewer follows on another by changes of the session, with the cursor still on the grid. -/
structure Follows (v v' : Viewer) : Prop where
  session : ∃ changes, v'.session = v.session.run changes
  cursor : v.session.board.grid.contains v.cursor = true →
    v.session.board.grid.contains v'.cursor = true

/-- A viewer follows on itself. -/
theorem Follows.refl (v : Viewer) : v.Follows v :=
  ⟨⟨[], rfl⟩, id⟩

/-- It is enough that the session has gone through one change and the cursor has stayed. -/
theorem Follows.of_change {v v' : Viewer} (change : Session.Change)
    (hsession : v'.session = v.session.apply change) (hcursor : v'.cursor = v.cursor) :
    v.Follows v' :=
  ⟨⟨[change], hsession⟩, fun h => hcursor ▸ h⟩

/-- Moving the cursor keeps it on the grid and the session as it is. -/
theorem follows_moveCursor (v : Viewer) (dRow dCol : Int) : v.Follows (v.moveCursor dRow dCol) := by
  unfold moveCursor
  dsimp only
  split
  · next hnext => exact ⟨⟨[], rfl⟩, fun _ => hnext⟩
  · exact .refl v

/-- Toggling an obstacle is a change of the session. -/
theorem follows_toggleObstacle (v : Viewer) : v.Follows v.toggleObstacle := by
  unfold toggleObstacle
  split
  · exact ⟨⟨[], rfl⟩, id⟩
  · exact .of_change (.toggleObstacle v.cursor) rfl rfl

/-- Choosing a slider is no change of the session. -/
theorem follows_cycleSlider (v : Viewer) (delta : Int) : v.Follows (v.cycleSlider delta) := by
  unfold cycleSlider
  split
  · exact ⟨⟨[], rfl⟩, id⟩
  · exact .refl v

/-- Adjusting a slider is a change of the session. -/
theorem follows_adjustSlider (v : Viewer) (delta : Int) : v.Follows (v.adjustSlider delta) := by
  unfold adjustSlider
  split
  · next name value _ => exact .of_change (.setSlider name (value + delta)) rfl rfl
  · exact .refl v

/-- Toggling dashes is a change of the session. -/
theorem follows_toggleDash (v : Viewer) : v.Follows v.toggleDash :=
  .of_change (.setOptions { v.session.options with dash := !v.session.options.dash }) rfl rfl

/-- Reloading the file is a change of the session, and none if it cannot be read. -/
theorem follows_reload (v : Viewer) (file : RuleFile) : v.Follows (v.reload file) := by
  unfold reload
  split
  · next text _ => exact .of_change (.render text) rfl rfl
  · exact ⟨⟨[], rfl⟩, id⟩

/-- Every action follows on by changes of the session. -/
theorem follows_perform (v : Viewer) (file : RuleFile) (action : Action) :
    v.Follows (v.perform file action) := by
  cases action with
  | moveCursor dRow dCol => exact v.follows_moveCursor dRow dCol
  | centerCursor => exact ⟨⟨[], rfl⟩, fun _ => v.session.board.grid.contains_center⟩
  | toggleObstacle => exact v.follows_toggleObstacle
  | clearObstacles =>
    show v.Follows { v with session := v.session.clearObstacles }
    exact .of_change .clearObstacles rfl rfl
  | addSample =>
    show v.Follows { v with session := v.session.addSample }
    exact .of_change .addSample rfl rfl
  | nextSlider => exact v.follows_cycleSlider 1
  | previousSlider => exact v.follows_cycleSlider (-1)
  | raiseSlider => exact v.follows_adjustSlider 1
  | lowerSlider => exact v.follows_adjustSlider (-1)
  | toggleDash => exact v.follows_toggleDash
  | reload => exact v.follows_reload file
  | quit => exact .refl v
  | ignore => exact .refl v

/-! ## Between actions -/

/-- A viewer that has taken all that an action does. -/
structure Ready (v : Viewer) (grid : Grid) : Prop where
  settled : v.session.Settled grid
  contains_cursor : grid.contains v.cursor = true
  /-- The cursor's cell is hovered, and what is remembered is what that takes. -/
  refreshed : v.refreshHover = v

/-- The hover is refreshed once and for all. -/
theorem refreshHover_refreshHover (v : Viewer) : v.refreshHover.refreshHover = v.refreshHover :=
  congrArg (fun session => { v with session }) (v.session.hover_hover v.cursor)

/-- Refreshing the hover makes a settled viewer ready. -/
theorem ready_refreshHover {v : Viewer} {grid : Grid} (hsettled : v.session.Settled grid)
    (hcursor : grid.contains v.cursor = true) : v.refreshHover.Ready grid :=
  ⟨hsettled.apply (.hover v.cursor), hcursor, v.refreshHover_refreshHover⟩

namespace Ready

variable {v : Viewer} {grid : Grid}

/-- In a ready viewer the cell under the cursor is hovered. -/
theorem hovered_eq (h : v.Ready grid) : v.session.hovered = some v.cursor :=
  (congrArg (·.session.hovered) h.refreshed).symm

/-- The status line does not matter to being ready. -/
theorem withStatus (h : v.Ready grid) (status : Option String) :
    Ready { v with status } grid :=
  ⟨h.settled, h.contains_cursor, congrArg (fun w => { w with status }) h.refreshed⟩

/-- What follows on a ready viewer is ready once the hover is refreshed. -/
theorem refresh_of_follows (h : v.Ready grid) {v' : Viewer} (hfollows : v.Follows v') :
    v'.refreshHover.Ready grid := by
  obtain ⟨⟨changes, hsession⟩, hcursor⟩ := hfollows
  rw [h.settled.grid_eq] at hcursor
  apply ready_refreshHover
  · rw [hsession]
    exact h.settled.run changes
  · exact hcursor h.contains_cursor

/-- Every action leaves a viewer ready. -/
theorem handle (h : v.Ready grid) (file : RuleFile) (action : Action) :
    (v.handle file action).1.Ready grid := by
  have hperformed := (h.withStatus none).refresh_of_follows (follows_perform _ file action)
  cases action with
  | quit => exact h
  | ignore => exact h
  | _ => exact hperformed

end Ready

/-- The viewer after actions, the first of them first, each with what is then found at the path of
the rule. -/
def run (v : Viewer) (events : List (RuleFile × Action)) : Viewer :=
  events.foldl (fun v event => (v.handle event.1 event.2).1) v

/-- A ready viewer stays so over any run of actions. -/
theorem Ready.run {v : Viewer} {grid : Grid} (h : v.Ready grid)
    (events : List (RuleFile × Action)) : (v.run events).Ready grid := by
  induction events generalizing v with
  | nil => exact h
  | cons event rest ih => exact ih (h.handle event.1 event.2)

/-- A viewer of a session that is reached is ready after any actions. -/
theorem ready_run (grid : Grid) (options : RenderOptions) (changes : List Session.Change)
    (path : String) (panelWidth : Nat) (events : List (RuleFile × Action)) :
    ((start ((Session.start grid options).run changes) path panelWidth).run events).Ready grid := by
  have hsettled := Session.settled_run grid options changes
  apply Ready.run
  apply ready_refreshHover hsettled
  rw [hsettled.grid_eq]
  exact grid.contains_center

/-! ## The selected slider -/

/-- No slider is selected when there is none. -/
theorem selected?_eq_none_iff (v : Viewer) : v.selected? = none ↔ v.sliders = [] := by
  unfold selected?
  rw [← List.isEmpty_iff]
  split
  · next hempty => exact ⟨fun _ => hempty, fun _ => rfl⟩
  · next hempty => exact ⟨fun h => (nomatch h), fun h => absurd h hempty⟩

/-- The selected slider is one of the list. -/
theorem lt_of_selected? {v : Viewer} {index : Nat} (h : v.selected? = some index) :
    index < v.sliders.length := by
  have hne : v.sliders ≠ [] := fun hnil => by
    rw [(v.selected?_eq_none_iff).2 hnil] at h
    cases h
  have hpos := List.length_pos_iff.2 hne
  unfold selected? at h
  rw [if_neg (by simpa using hne)] at h
  obtain rfl := Option.some.inj h
  omega

/-- The index of a slider some steps further, around the ends of a list. -/
def around (count : Nat) (delta : Int) (index : Nat) : Nat :=
  ((index + delta) % (count : Int)).toNat

/-- Going around a list is counting modulo its length. -/
theorem coe_around {count : Nat} (h : 0 < count) (delta : Int) (index : Nat) :
    (around count delta index : Int) = (index + delta) % (count : Int) :=
  Int.toNat_of_nonneg (Int.emod_nonneg _ (by omega))

/-- Going around a list stays within it. -/
theorem around_lt {count : Nat} (h : 0 < count) (delta : Int) (index : Nat) :
    around count delta index < count := by
  have hlt := Int.emod_lt_of_pos ((index : Int) + delta) (Int.natCast_pos.2 h)
  rw [← coe_around h] at hlt
  exact Int.ofNat_lt.1 hlt

/-- As many steps back lead to the index again. -/
theorem around_around {count index : Nat} (h : index < count) (delta : Int) :
    around count (-delta) (around count delta index) = index := by
  have hpos : 0 < count := by omega
  apply Int.ofNat_inj.1
  rw [coe_around hpos, coe_around hpos, Int.emod_add_emod, Int.add_neg_cancel_right]
  exact Int.emod_eq_of_lt (by omega) (by omega)

/-- Choosing a slider leaves the sliders alone. -/
theorem sliders_cycleSlider (v : Viewer) (delta : Int) : (v.cycleSlider delta).sliders = v.sliders := by
  unfold cycleSlider
  split <;> rfl

/-- Choosing a slider goes around the list from the selected one. -/
theorem selected?_cycleSlider (v : Viewer) (delta : Int) :
    (v.cycleSlider delta).selected? = v.selected?.map (around v.sliders.length delta) := by
  cases hselected : v.selected? with
  | none =>
    have hsame : v.cycleSlider delta = v := by
      unfold cycleSlider
      rw [hselected]
    rw [hsame, hselected]
    rfl
  | some index =>
    have hpos : 0 < v.sliders.length := by have := lt_of_selected? hselected; omega
    have hlt := around_lt hpos delta index
    have hnext : v.cycleSlider delta =
        { v with lastSelected := around v.sliders.length delta index } := by
      unfold cycleSlider
      rw [hselected]
      rfl
    rw [hnext]
    show (if v.sliders.isEmpty then none
      else some (min (around v.sliders.length delta index) (v.sliders.length - 1))) = _
    rw [if_neg (by simpa using List.ne_nil_of_length_pos hpos), Nat.min_eq_left (by omega)]
    rfl

/-- The key for the next slider goes one further. -/
theorem selected?_handle_nextSlider (v : Viewer) (file : RuleFile) :
    (v.handle file .nextSlider).1.selected? = v.selected?.map (around v.sliders.length 1) :=
  selected?_cycleSlider { v with status := none } 1

/-- The key for the previous slider goes one back. -/
theorem selected?_handle_previousSlider (v : Viewer) (file : RuleFile) :
    (v.handle file .previousSlider).1.selected? = v.selected?.map (around v.sliders.length (-1)) :=
  selected?_cycleSlider { v with status := none } (-1)

/-- The key for the next slider leaves the sliders alone. -/
theorem sliders_handle_nextSlider (v : Viewer) (file : RuleFile) :
    (v.handle file .nextSlider).1.sliders = v.sliders :=
  sliders_cycleSlider { v with status := none } 1

/-- The key for the previous slider leaves the sliders alone. -/
theorem sliders_handle_previousSlider (v : Viewer) (file : RuleFile) :
    (v.handle file .previousSlider).1.sliders = v.sliders :=
  sliders_cycleSlider { v with status := none } (-1)

/-- Going around and back selects the same slider again. -/
theorem map_around_selected? (v : Viewer) (delta : Int) :
    (v.selected?.map (around v.sliders.length delta)).map (around v.sliders.length (-delta)) =
      v.selected? := by
  cases hselected : v.selected? with
  | none => rfl
  | some index => exact congrArg some (around_around (lt_of_selected? hselected) delta)

/-! ## Reloading -/

/-- A file that cannot be read changes only the status of a viewer with nothing to refresh. -/
theorem handle_reload_of_error {v : Viewer} (h : v.refreshHover = v) {file : RuleFile}
    {problem : Problem} (hload : file.load v.path = .error problem) :
    v.handle file .reload = ({ v with status := some problem.inline }, false) := by
  have hreload : reload { v with status := none } file =
      { v with status := some problem.inline } := by
    unfold reload
    rw [hload]
  show ((reload { v with status := none } file).refreshHover, false) = _
  rw [hreload]
  exact congrArg (fun w => ({ w with status := some problem.inline }, false)) h

/-! ## All together -/

/-- Cursor, hover, selection and session of a viewer belong together. -/
structure Coupled (v : Viewer) : Prop where
  contains_cursor : v.session.board.grid.contains v.cursor = true
  hovered : v.session.hovered = some v.cursor
  /-- The cell of the cursor is marked as the target if it is one, and no other cell is. -/
  target : ∀ c, (v.session.frame.marksAt c).target = true ↔
    c = v.cursor ∧ v.session.isTarget v.cursor = true
  selected_none : v.selected? = none ↔ v.sliders = []
  selected_lt : ∀ index, v.selected? = some index → index < v.sliders.length
  next_previous : ∀ file file',
    ((v.handle file .nextSlider).1.handle file' .previousSlider).1.selected? = v.selected?
  previous_next : ∀ file file',
    ((v.handle file .previousSlider).1.handle file' .nextSlider).1.selected? = v.selected?
  /-- Reloading a file that cannot be read changes nothing but the status. -/
  unread : ∀ file problem, RuleFile.load file v.path = .error problem →
    v.handle file .reload = ({ v with status := some problem.inline }, false)

/-- In a ready viewer all parts agree with one another. -/
theorem Ready.coupled {v : Viewer} {grid : Grid} (h : v.Ready grid) : v.Coupled where
  contains_cursor := h.settled.grid_eq ▸ h.contains_cursor
  hovered := h.hovered_eq
  target := by
    intro c
    by_cases hc : grid.contains c = true
    · rw [h.settled.target_marksAt_frame hc, h.hovered_eq, Option.some.injEq]
      exact ⟨fun ⟨hcursor, htarget⟩ => ⟨hcursor.symm, hcursor ▸ htarget⟩,
        fun ⟨hcursor, htarget⟩ => ⟨hcursor.symm, hcursor ▸ htarget⟩⟩
    · rw [h.settled.marksAt_frame_of_not_contains hc]
      exact ⟨fun hmark => absurd hmark Bool.false_ne_true,
        fun ⟨hcursor, _⟩ => absurd (hcursor ▸ h.contains_cursor) hc⟩
  selected_none := v.selected?_eq_none_iff
  selected_lt := fun _ => lt_of_selected?
  next_previous := by
    intro file file'
    rw [selected?_handle_previousSlider, sliders_handle_nextSlider, selected?_handle_nextSlider]
    exact v.map_around_selected? 1
  previous_next := by
    intro file file'
    rw [selected?_handle_nextSlider, sliders_handle_previousSlider, selected?_handle_previousSlider]
    exact v.map_around_selected? (-1)
  unread := fun _ _ => handle_reload_of_error h.refreshed

/-- A viewer of any session that can be reached stays coupled over every sequence of actions,
whatever becomes of the rule file meanwhile. -/
theorem coupled_run (grid : Grid) (options : RenderOptions) (changes : List Session.Change)
    (path : String) (panelWidth : Nat) (events : List (RuleFile × Action)) :
    ((start ((Session.start grid options).run changes) path panelWidth).run events).Coupled :=
  (ready_run grid options changes path panelWidth events).coupled

end Viewer

end Reticle
