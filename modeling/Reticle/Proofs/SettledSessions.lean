import Reticle.Proofs.Reading
import Reticle.Proofs.Remembering
import Reticle.Proofs.SliderValues
import Reticle.Session.Basic

/-!
# Settled sessions

A session that is reached is settled (`Session.settled_run`): its outcome is that of rendering its
text anew, from sliders with the present values, and what it remembers was derived for the scenario
that is shown, from boards of its grid. Every change keeps that, each in its own way: most of them
render anew and forget, changes of the obstacles touch nothing else, and looks only remember more.
-/

namespace Reticle

/-! ## Rendering from sliders that agree -/

namespace Sliders

/-- Well-formed sliders that are alike and have the values of given ones. -/
structure Twins (given s t : Sliders) : Prop where
  alike : s.Alike t
  left : s.WellFormed
  right : t.WellFormed
  values : s.SameValues given

/-- Resolving a name gives twins the same value and leaves twins. -/
theorem congruent_twins (given : Sliders) : Congruent (Twins given) fun _ => True := by
  apply congruent_of_resolve
  intro name s t h
  refine ⟨h.alike.values.fst_resolve name, ?_⟩
  have hvalues : (s.require name).SameValues given := (sameValues_require s name).trans h.values
  exact ⟨h.alike.require name, h.left.require name, h.right.require name, hvalues⟩

end Sliders

/-- A rule shows the same from sliders that agree on values, and keeps the values. -/
theorem render_of_sameValues (text : String) (grid : Grid) (options : RenderOptions)
    {s t : Sliders} (hs : s.WellFormed) (ht : t.WellFormed) (h : s.SameValues t) :
    let given : String := .ofList (Text.unixLines text.toList)
    (render given grid s options).1 = (render text grid t options).1 ∧
      Sliders.Twins s (render given grid s options).2 (render text grid t options).2 := by
  have hkept : s.forgetRequired.SameValues s := s.valueOf_forgetRequired
  exact blind_render (Sliders.congruent_twins s) text grid options
    ⟨h.forgetRequired, hs.forgetRequired, ht.forgetRequired, hkept⟩

/-- Rendering keeps sliders well-formed and their values as they are. -/
theorem wellFormed_render (text : String) (grid : Grid) (options : RenderOptions) {s : Sliders}
    (hs : s.WellFormed) :
    (render text grid s options).2.WellFormed ∧ (render text grid s options).2.SameValues s := by
  obtain ⟨-, htwins⟩ := render_of_sameValues text grid options hs hs (Sliders.SameValues.refl s)
  exact ⟨htwins.right, htwins.alike.values.symm.trans htwins.values⟩

/-! ## What is shown from memory -/

/-- A frame whose marks are steady is steady. -/
theorem Frame.steady_tabulateM {P : Memory → Prop} (grid : Grid) {marks : Cell → Recall Marks}
    (h : ∀ c, Recall.Steady P (marks c)) : Recall.Steady P (tabulateM grid marks) := by
  unfold tabulateM
  refine Recall.Steady.bind (Recall.Steady.mapM (fun row => ?_) _) fun rows => Recall.Steady.pure _
  exact Recall.Steady.mapM (fun col => h _) _

namespace Scenario

/-- The preview of a cell is steady. -/
theorem steady_recallPreview (s : Scenario) (board : Board) (c : Cell) :
    Recall.Steady (s.Trusts board.grid) ((s.outlook board).recallPreview c) := by
  unfold Outlook.recallPreview
  refine Recall.Steady.bind ⟨_, s.faithful_recallTargetable board c⟩ fun holds => ?_
  split
  · refine Recall.Steady.bind ⟨_, s.faithful_recallArea board c⟩ fun cells => ?_
    exact Recall.Steady.pure _
  · exact Recall.Steady.pure _

/-- The area shown without a hover is steady. -/
theorem steady_recallShown (s : Scenario) (board : Board) :
    Recall.Steady (s.Trusts board.grid) (s.recallShown board) := by
  unfold recallShown
  split
  · exact ⟨_, s.faithful_recallArea board _⟩
  · exact Recall.Steady.pure _

end Scenario

namespace Session

/-- What is remembered was derived for the shown scenario, from boards of the grid. -/
def Trusts (s : Session) (memory : Memory) : Prop :=
  ∀ rendered, s.rendered? = some rendered → rendered.scenario.Trusts s.board.grid memory

/-- A session trusts what its scenario trusts. -/
theorem trusts_of_rendered {s : Session} {rendered : Rendered} (h : s.rendered? = some rendered) :
    s.Trusts = rendered.scenario.Trusts s.board.grid := by
  funext memory
  unfold Trusts
  rw [h]
  exact propext ⟨fun ht => ht rendered rfl, fun ht r hr => Option.some.inj hr ▸ ht⟩

/-- A session may trust a cold memory. -/
theorem trusts_cold (s : Session) : s.Trusts Memory.cold :=
  fun rendered _ => rendered.scenario.trusts_cold _

/-- The preview of a cell in a session is steady. -/
theorem steady_recallPreview (s : Session) (c : Cell) :
    Recall.Steady s.Trusts (s.recallPreview c) := by
  unfold recallPreview
  cases hr : s.rendered? with
  | none => exact Recall.Steady.pure _
  | some rendered =>
    rw [trusts_of_rendered hr]
    exact rendered.scenario.steady_recallPreview s.board c

/-- The preview of the hovered cell is steady. -/
theorem steady_recallHover (s : Session) : Recall.Steady s.Trusts s.recallHover := by
  unfold recallHover
  cases s.hovered with
  | none => exact Recall.Steady.pure _
  | some c => exact s.steady_recallPreview c

/-- The frame of a session is steady. -/
theorem steady_recallFrame (s : Session) : Recall.Steady s.Trusts s.recallFrame := by
  have hhover := s.steady_recallHover
  unfold recallFrame
  cases hr : s.rendered? with
  | none => exact Recall.Steady.pure _
  | some rendered =>
    rw [trusts_of_rendered hr] at hhover ⊢
    apply (rendered.scenario.steady_recallShown s.board).bind
    intro shown
    apply hhover.bind
    intro hover
    apply Frame.steady_tabulateM _
    intro c
    refine Recall.Steady.bind ⟨_, rendered.scenario.faithful_recallTargetable s.board c⟩ ?_
    exact fun holds => Recall.Steady.pure _

/-! ## Settled sessions -/

/-- Rebuilding leaves the board alone. -/
theorem board_rebuild (s : Session) : s.rebuild.board = s.board :=
  rfl

/-- Rebuilding renders the text that is held. -/
theorem outcome_rebuild (s : Session) :
    s.rebuild.outcome = (Reticle.render s.text s.board.grid s.sliders s.options).1 :=
  rfl

/-- Rebuilding leaves the sliders that rendering the text ends with. -/
theorem sliders_rebuild (s : Session) :
    s.rebuild.sliders = (Reticle.render s.text s.board.grid s.sliders s.options).2 :=
  rfl

/-- Rebuilding drops the hover. -/
theorem hovered_rebuild (s : Session) : s.rebuild.hovered = none :=
  rfl

/-- A slider that is refused changes nothing in the session. -/
theorem apply_setSlider_of_none {s : Session} {name : String} {value : Int}
    (h : s.sliders.set? name value = none) : s.apply (.setSlider name value) = s := by
  unfold apply setSlider?
  simp only [h]
  rfl

/-- A slider that is accepted is stored and the session is rebuilt. -/
theorem apply_setSlider_of_some {s : Session} {name : String} {value : Int}
    {result : Int × Sliders} (h : s.sliders.set? name value = some result) :
    s.apply (.setSlider name value) = { s with sliders := result.2 }.rebuild := by
  unfold apply setSlider?
  simp only [h]
  rfl

/-- The session after changes, the first of them first. -/
def run (s : Session) (changes : List Change) : Session :=
  changes.foldl apply s

/-- A session that shows what rendering its text anew would show. -/
structure Settled (s : Session) (grid : Grid) : Prop where
  grid_eq : s.board.grid = grid
  legal : s.board.Legal
  wellFormed : s.sliders.WellFormed
  /-- The outcome and the requirements are those of a rendering from the present values. -/
  rendered : ∃ given : Sliders, given.WellFormed ∧ given.SameValues s.sliders ∧
    Reticle.render s.text s.board.grid given s.options = (s.outcome, s.sliders)
  trusts : s.Trusts s.memory

/-- A session starts settled. -/
theorem settled_start (grid : Grid) (options : RenderOptions) :
    (start grid options).Settled grid where
  grid_eq := rfl
  legal := Board.legal_empty grid
  wellFormed := Sliders.wellFormed_empty
  rendered := ⟨.empty, Sliders.wellFormed_empty, Sliders.SameValues.refl _, rfl⟩
  trusts := trusts_cold _

/-- Rendering anew settles a session. -/
theorem settled_rebuild {s : Session} {grid : Grid} (hgrid : s.board.grid = grid)
    (hlegal : s.board.Legal) (hsliders : s.sliders.WellFormed) : s.rebuild.Settled grid := by
  obtain ⟨hwellFormed, hvalues⟩ := wellFormed_render s.text s.board.grid s.options hsliders
  exact ⟨hgrid, hlegal, hwellFormed, ⟨s.sliders, hsliders, hvalues.symm, rfl⟩, trusts_cold _⟩

/-- What only changes the board within its grid, the hovered cell and what is remembered leaves a
session settled. -/
theorem Settled.of_same {s t : Session} {grid : Grid} (h : s.Settled grid)
    (hgrid : t.board.grid = s.board.grid) (hlegal : t.board.Legal) (htext : t.text = s.text)
    (hoptions : t.options = s.options) (houtcome : t.outcome = s.outcome)
    (hsliders : t.sliders = s.sliders) (htrusts : s.Trusts t.memory) : t.Settled grid := by
  have hrendered : t.rendered? = s.rendered? := by
    unfold rendered?
    rw [houtcome]
  refine ⟨hgrid.trans h.grid_eq, hlegal, hsliders ▸ h.wellFormed, ?_, ?_⟩
  · rw [hgrid, htext, hoptions, houtcome, hsliders]
    exact h.rendered
  · unfold Trusts
    rw [hgrid, hrendered]
    exact htrusts

/-- A change of the board leaves the session settled. -/
theorem Settled.withBoard {s : Session} {grid : Grid} (h : s.Settled grid)
    (change : Board.Change) :
    Settled { s with board := s.board.apply change, hovered := none } grid :=
  h.of_same (Board.grid_apply _ change) (h.legal.apply change) rfl rfl rfl rfl h.trusts

/-- Looking at something leaves the session settled. -/
theorem Settled.remembering {s : Session} {grid : Grid} (h : s.Settled grid) {α : Type}
    {look : Recall α} (hlook : Recall.Steady s.Trusts look) (hovered : Option Cell) :
    Settled { s with hovered, memory := (look s.memory).2 } grid :=
  h.of_same rfl h.legal rfl rfl rfl rfl (hlook.keeps h.trusts)

/-- Every change leaves a session settled. -/
theorem Settled.apply {s : Session} {grid : Grid} (h : s.Settled grid) (change : Change) :
    (s.apply change).Settled grid := by
  cases change with
  | render text => exact settled_rebuild h.grid_eq h.legal h.wellFormed
  | setOptions options => exact settled_rebuild h.grid_eq h.legal h.wellFormed
  | setSlider name value =>
    cases hset : s.sliders.set? name value with
    | none =>
      rw [apply_setSlider_of_none hset]
      exact h
    | some result =>
      rw [apply_setSlider_of_some hset]
      exact settled_rebuild h.grid_eq h.legal (h.wellFormed.of_set? hset)
  | toggleObstacle c => exact h.withBoard (.toggle c)
  | clearObstacles => exact h.withBoard .clear
  | addSample => exact h.withBoard .addSample
  | hover c => exact h.remembering (steady_recallPreview { s with hovered := some c } c) (some c)
  | unhover => exact h.of_same rfl h.legal rfl rfl rfl rfl h.trusts
  | preview c => exact h.remembering (s.steady_recallPreview c) s.hovered
  | frame => exact h.remembering s.steady_recallFrame s.hovered

/-- The rule that a settled session shows was rendered on its grid. -/
theorem Settled.exists_render_eq {s : Session} {grid : Grid} (h : s.Settled grid)
    {rendered : Rendered} (hr : s.rendered? = some rendered) :
    ∃ given, Reticle.render s.text grid given s.options = (.ready rendered, s.sliders) := by
  obtain ⟨given, -, -, hrender⟩ := h.rendered
  have houtcome : s.outcome = .ready rendered := by
    unfold rendered? at hr
    split at hr
    · next found hfound =>
      obtain rfl := Option.some.inj hr
      exact hfound
    · cases hr
  rw [houtcome, h.grid_eq] at hrender
  exact ⟨given, hrender⟩

/-- A settled session stays so over any run of changes. -/
theorem Settled.run {s : Session} {grid : Grid} (h : s.Settled grid) (changes : List Change) :
    (s.run changes).Settled grid := by
  induction changes generalizing s with
  | nil => exact h
  | cons change rest ih => exact ih (h.apply change)

/-- Every session that is reached is settled. -/
theorem settled_run (grid : Grid) (options : RenderOptions) (changes : List Change) :
    ((start grid options).run changes).Settled grid :=
  (settled_start grid options).run changes

end Session

end Reticle
