import Reticle.Proofs.SettledSessions

/-!
# Sessions without a history

What a session shows follows from what it has now: its text, options, slider values, obstacles and
hovered cell. A fresh session can be brought to the same state by a short way, setting the variables
and placing the obstacles first and then rendering the text and hovering. Since both sessions are
settled, they show the same (`Session.Settled.showsSame`).
-/

namespace Reticle

namespace Session

/-! ## Showing the same -/

/-- Two sessions show the same. Names of sliders are told apart up to the case of letters. -/
structure ShowsSame (s t : Session) : Prop where
  summary : s.summary = t.summary
  error : s.error? = t.error?
  warnings : s.warnings = t.warnings
  adjustable : s.sliders.adjustableKeys = t.sliders.adjustableKeys
  frame : s.frame = t.frame
  preview : ∀ c, s.preview c = t.preview c

/-- Settled sessions show the same when they agree on the board, the outcome and the hovered cell
and their sliders are alike; it does not matter what they remember. -/
theorem Settled.showsSame {s t : Session} {grid : Grid} (hs : s.Settled grid) (ht : t.Settled grid)
    (hboard : s.board = t.board) (houtcome : s.outcome = t.outcome)
    (hhovered : s.hovered = t.hovered) (hsliders : s.sliders.Alike t.sliders) : s.ShowsSame t := by
  have hrendered : s.rendered? = t.rendered? := by
    unfold rendered?
    rw [houtcome]
  have htrusts : s.Trusts = t.Trusts := by
    unfold Trusts
    rw [hrendered, hboard]
  have hpreview : s.recallPreview = t.recallPreview := by
    unfold recallPreview
    rw [hrendered, hboard]
  have hhover : s.recallHover = t.recallHover := by
    unfold recallHover
    rw [hhovered, hpreview]
  have hframe : s.recallFrame = t.recallFrame := by
    unfold recallFrame
    rw [hrendered, hboard, hhover]
  -- The two memories differ, but both are trusted, and a steady answer is the same from either.
  have hmemory : s.Trusts t.memory := htrusts ▸ ht.trusts
  refine ⟨?_, ?_, ?_, hsliders.adjustableKeys_eq hs.wellFormed ht.wellFormed, ?_, ?_⟩
  · unfold summary
    rw [houtcome]
  · unfold error?
    rw [houtcome]
  · unfold warnings
    rw [hrendered]
  · unfold frame
    rw [← hframe]
    exact s.steady_recallFrame.eq hs.trusts hmemory
  · intro c
    unfold preview
    rw [← hpreview]
    exact (s.steady_recallPreview c).eq hs.trusts hmemory

/-! ## Another way to the same state -/

/-- The changes that set variables and then put obstacles on the board. -/
def preparation (settings : List (String × Int)) (obstacles : List Cell) : List Change :=
  settings.map (fun setting => .setSlider setting.1 setting.2) ++ obstacles.map .toggleObstacle

/-- The changes that bring a prepared session to the state of a session: the text is rendered, and
the hovered cell is hovered, if there is one. -/
def resumption (s : Session) : List Change :=
  .render s.text :: (s.hovered.map .hover).toList

/-- Changes may be made in two runs. -/
theorem run_append (s : Session) (xs ys : List Change) :
    s.run (xs ++ ys) = (s.run xs).run ys :=
  List.foldl_append

end Session

namespace Sliders

/-- Settings that give every variable with a value that value, in any order and spelling. -/
structure ListedBy (s : Sliders) (settings : List (String × Int)) : Prop where
  sound : ∀ setting ∈ settings, s.value? setting.1 = some setting.2
  complete : ∀ e ∈ s.entries, ∃ setting ∈ settings, Slider.keyOf setting.1 = e.key

end Sliders

namespace Session

/-- Setting a slider changes the value under its key only, and only if its name is accepted. -/
theorem valueOf_apply_setSlider {s : Session} {grid : Grid} (hs : s.Settled grid) (name : String)
    (value : Int) (key : String) :
    (s.apply (.setSlider name value)).sliders.valueOf key =
      if Sliders.accepts name = true ∧ key = Slider.keyOf name then Slider.clamp value
      else s.sliders.valueOf key := by
  cases hset : s.sliders.set? name value with
  | none =>
    have hname : ¬ Sliders.accepts name = true := by
      intro hname
      unfold Sliders.set? at hset
      rw [if_pos hname] at hset
      simp at hset
    rw [apply_setSlider_of_none hset, if_neg fun h => hname h.1]
  | some result =>
    have hname : Sliders.accepts name = true := by
      by_contra hname
      unfold Sliders.set? at hset
      rw [if_neg hname] at hset
      simp at hset
    have hkept := (wellFormed_render s.text s.board.grid s.options (hs.wellFormed.of_set? hset)).2
    rw [apply_setSlider_of_some hset]
    refine (hkept key).trans ?_
    rw [Sliders.valueOf_of_set? hset]
    by_cases hkey : key = Slider.keyOf name <;> simp [hkey, hname]

/-- Setting variables to what they are elsewhere makes them agree with there, each once it is set
at the latest. -/
theorem valueOf_run_settings {settings : List (String × Int)} {target : Sliders}
    (htarget : target.WellFormed)
    (hsound : ∀ setting ∈ settings, target.value? setting.1 = some setting.2) {key : String}
    {s : Session} {grid : Grid} (hs : s.Settled grid)
    (h : s.sliders.valueOf key = target.valueOf key ∨
      ∃ setting ∈ settings, Slider.keyOf setting.1 = key) :
    (s.run (settings.map fun setting => .setSlider setting.1 setting.2)).sliders.valueOf key =
      target.valueOf key := by
  induction settings generalizing s with
  | nil =>
    rcases h with h | ⟨setting, hmem, -⟩
    · exact h
    · exact absurd hmem List.not_mem_nil
  | cons setting rest ih =>
    obtain ⟨name, value⟩ := setting
    have hvalue : target.value? name = some value := hsound (name, value) List.mem_cons_self
    refine ih (fun setting hmem => hsound setting (List.mem_cons_of_mem _ hmem))
      (hs.apply (.setSlider name value)) ?_
    -- This setting gives the key its value, or leaves it to the others.
    rw [valueOf_apply_setSlider hs]
    by_cases hkey : key = Slider.keyOf name
    · left
      subst hkey
      by_cases hname : Sliders.accepts name = true
      · rw [if_pos ⟨hname, rfl⟩, ← Sliders.valueOf_of_value? hname hvalue,
          Sliders.clamp_valueOf htarget]
      · have hrefused : Sliders.accepts name = false := Bool.eq_false_iff.2 hname
        rw [if_neg fun hboth => hname hboth.1,
          Sliders.valueOf_of_not_accepted hs.wellFormed hrefused,
          Sliders.valueOf_of_not_accepted htarget hrefused]
    · rw [if_neg fun hboth => hkey hboth.2]
      rcases h with h | ⟨setting, hmem, hsetting⟩
      · exact Or.inl h
      · rcases List.mem_cons.1 hmem with rfl | hmem
        · exact absurd hsetting.symm hkey
        · exact Or.inr ⟨setting, hmem, hsetting⟩

/-- Setting a slider leaves the board alone. -/
theorem board_apply_setSlider (s : Session) (name : String) (value : Int) :
    (s.apply (.setSlider name value)).board = s.board := by
  cases hset : s.sliders.set? name value with
  | none => rw [apply_setSlider_of_none hset]
  | some result =>
    rw [apply_setSlider_of_some hset]
    rfl

/-- Setting a slider leaves the options alone. -/
theorem options_apply_setSlider (s : Session) (name : String) (value : Int) :
    (s.apply (.setSlider name value)).options = s.options := by
  cases hset : s.sliders.set? name value with
  | none => rw [apply_setSlider_of_none hset]
  | some result =>
    rw [apply_setSlider_of_some hset]
    rfl

/-- Setting any number of sliders leaves the board and the options alone. -/
theorem run_settings_rest (s : Session) (settings : List (String × Int)) :
    (s.run (settings.map fun setting => .setSlider setting.1 setting.2)).board = s.board ∧
      (s.run (settings.map fun setting => .setSlider setting.1 setting.2)).options = s.options := by
  induction settings generalizing s with
  | nil => exact ⟨rfl, rfl⟩
  | cons setting rest ih =>
    obtain ⟨hboard, hoptions⟩ := ih (s.apply (.setSlider setting.1 setting.2))
    rw [board_apply_setSlider] at hboard
    rw [options_apply_setSlider] at hoptions
    exact ⟨hboard, hoptions⟩

/-- Toggling obstacles changes the board as its own changes do, and nothing else. -/
theorem run_toggles (s : Session) (obstacles : List Cell) :
    (s.run (obstacles.map .toggleObstacle)).board = s.board.run (obstacles.map .toggle) ∧
      (s.run (obstacles.map .toggleObstacle)).sliders = s.sliders ∧
      (s.run (obstacles.map .toggleObstacle)).options = s.options := by
  induction obstacles generalizing s with
  | nil => exact ⟨rfl, rfl, rfl⟩
  | cons c rest ih => exact ih (s.toggleObstacle c)

/-- A fresh session that is prepared with the variables and obstacles of a session has its slider
values and its board. -/
theorem run_preparation {s : Session} {grid : Grid} (hs : s.Settled grid)
    {settings : List (String × Int)} (hsettings : s.sliders.ListedBy settings)
    {obstacles : List Cell} (hnodup : obstacles.Nodup)
    (hobstacles : ∀ c, c ∈ obstacles ↔ c ∈ s.board.obstacles) (options : RenderOptions) :
    ((start grid options).run (preparation settings obstacles)).board = s.board ∧
      ((start grid options).run (preparation settings obstacles)).options = options ∧
      ((start grid options).run (preparation settings obstacles)).sliders.SameValues s.sliders := by
  unfold preparation
  rw [run_append]
  obtain ⟨hboard, hoptions⟩ := run_settings_rest (start grid options) settings
  obtain ⟨hboard', hsliders', hoptions'⟩ := run_toggles
    ((start grid options).run (settings.map fun setting => .setSlider setting.1 setting.2)) obstacles
  rw [hboard', hsliders', hoptions', hboard, hoptions]
  refine ⟨?_, rfl, fun key => ?_⟩
  · have hempty : (start grid options).board = Board.empty s.board.grid := by
      rw [hs.grid_eq]
      rfl
    rw [hempty]
    exact Board.run_toggles_eq hs.legal hnodup hobstacles
  · -- Keys with a slider are set; all others have the initial value in both sessions.
    refine valueOf_run_settings hs.wellFormed hsettings.sound (settled_start grid options) ?_
    cases hfind : s.sliders.find? key with
    | none =>
      left
      show Slider.initial = s.sliders.valueOf key
      unfold Sliders.valueOf
      rw [hfind]
      rfl
    | some e =>
      right
      obtain ⟨hmem, hkey⟩ := (Sliders.find?_eq_some_iff hs.wellFormed).1 hfind
      obtain ⟨setting, hsetting, hsame⟩ := hsettings.complete e hmem
      exact ⟨setting, hsetting, hsame.trans hkey⟩

/-- What is shown after a text was given is the rendering of that text with unix line ends. -/
theorem outcome_render (t : Session) (text : String) :
    (t.render text).outcome = (Reticle.render (.ofList (Text.unixLines text.toList)) t.board.grid
      t.sliders t.options).1 := by
  unfold Session.render
  rw [outcome_rebuild]

/-- The sliders after a text was given are those of its rendering. -/
theorem sliders_render (t : Session) (text : String) :
    (t.render text).sliders = (Reticle.render (.ofList (Text.unixLines text.toList)) t.board.grid
      t.sliders t.options).2 := by
  unfold Session.render
  rw [sliders_rebuild]

/-- Resuming renders the text again and hovers the cell again, on the board at hand. -/
theorem run_resumption (s t : Session) :
    (t.run s.resumption).board = t.board ∧
      (t.run s.resumption).outcome = (t.render s.text).outcome ∧
      (t.run s.resumption).sliders = (t.render s.text).sliders ∧
      (t.run s.resumption).hovered = s.hovered := by
  unfold resumption
  cases s.hovered with
  | none =>
    simp only [Option.map_none, Option.toList_none, run, List.foldl_cons, List.foldl_nil, apply]
    exact ⟨board_rebuild _, trivial, trivial, hovered_rebuild _⟩
  | some c =>
    simp only [Option.map_some, Option.toList_some, run, List.foldl_cons, List.foldl_nil, apply,
      hover, lookAt]
    exact ⟨board_rebuild _, trivial, trivial, trivial⟩

/-- A prepared session that takes up the text and the hovered cell of a session shows the same. -/
theorem showsSame_run_resumption {s t : Session} {grid : Grid} (hs : s.Settled grid)
    (ht : t.Settled grid) (hboard : t.board = s.board) (hoptions : t.options = s.options)
    (hvalues : t.sliders.SameValues s.sliders) : s.ShowsSame (t.run s.resumption) := by
  obtain ⟨hrboard, hroutcome, hrsliders, hrhovered⟩ := run_resumption s t
  -- The present outcome is a rendering from sliders that agree with those of the prepared session.
  obtain ⟨given, hgiven, hsame, hrender⟩ := hs.rendered
  obtain ⟨houtcome, htwins⟩ := render_of_sameValues s.text s.board.grid s.options ht.wellFormed
    hgiven (hvalues.trans hsame.symm)
  rw [hrender, ← hboard, ← hoptions, ← outcome_render, ← hroutcome] at houtcome
  rw [hrender, ← hboard, ← hoptions, ← sliders_render, ← hrsliders] at htwins
  refine hs.showsSame (ht.run s.resumption) (hboard.symm.trans hrboard.symm) houtcome.symm
    hrhovered.symm ?_
  exact ⟨htwins.alike.values.symm, fun key => (htwins.alike.requires key).symm⟩

/-- A session shows nothing of its history: it shows what a fresh session shows after its variables
are set, its obstacles are placed, its text is rendered and its hovered cell is hovered. -/
theorem history_invisible (grid : Grid) (options : RenderOptions) (changes : List Change)
    {settings : List (String × Int)} {obstacles : List Cell}
    (hsettings : ((start grid options).run changes).sliders.ListedBy settings)
    (hnodup : obstacles.Nodup)
    (hobstacles : ∀ c, c ∈ obstacles ↔ c ∈ ((start grid options).run changes).board.obstacles) :
    ShowsSame ((start grid options).run changes)
      ((start grid ((start grid options).run changes).options).run
        (preparation settings obstacles ++ ((start grid options).run changes).resumption)) := by
  have hs := settled_run grid options changes
  generalize (start grid options).run changes = s at *
  obtain ⟨hboard, hoptions, hvalues⟩ :=
    run_preparation hs hsettings hnodup hobstacles s.options
  rw [run_append]
  exact showsSame_run_resumption hs (settled_run grid s.options _) hboard hoptions hvalues

/-- A session in which a slider was set beyond its range before the rule was rendered, with an
obstacle and a hovered cell. -/
def exampleChanges : List Change :=
  [.setSlider "Reach" 40, .render "target_mode tile\nmax_range reach", .toggleObstacle ⟨0, 1⟩,
    .hover ⟨1, 2⟩]

/-- The example shows what a fresh session shows whose slider was set to ten under another
spelling. -/
theorem history_invisible_example :
    ShowsSame ((start (.ofSide 3) .standard).run exampleChanges)
      ((start (.ofSide 3) ((start (.ofSide 3) .standard).run exampleChanges).options).run
        (preparation [(" REACH", 10)] [⟨0, 1⟩] ++
          ((start (.ofSide 3) .standard).run exampleChanges).resumption)) := by
  have hobstacles : ((start (.ofSide 3) .standard).run exampleChanges).board.obstacles.cells =
      [⟨0, 1⟩] := by decide +kernel
  refine history_invisible (.ofSide 3) .standard exampleChanges ⟨?_, ?_⟩ (by decide) fun c => ?_
  · decide +kernel
  · decide +kernel
  · rw [CellSet.mem_def, hobstacles]

end Session

end Reticle
