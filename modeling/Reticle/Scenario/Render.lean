import Reticle.Rule.Reader
import Reticle.Scenario.Basic

/-!
# From rule texts to scenarios

`render` reads a rule text and builds its scenario. Which sliders the rule needs is found out anew
each time. Only the target mode can make a rule fail; whatever else is wrong gives a warning or
falls back to a default.
-/

namespace Reticle

/-- Choices that are not part of the rule. -/
structure RenderOptions where
  /-- Play directional rules with a range as dash attacks. -/
  dash : Bool
  /-- Notes to show with the warnings. -/
  notes : List String
deriving DecidableEq, Repr

namespace RenderOptions

/-- No dashes and no notes. -/
def standard : RenderOptions :=
  ⟨false, []⟩

/-- The notes as warnings, without blanks around them; blank notes do not count. -/
def noteWarnings (o : RenderOptions) : List Warning :=
  ((o.notes.map Text.trimmed).filter (! ·.isEmpty)).map .extra

end RenderOptions

/-- A rule that can be shown. -/
structure Rendered where
  mode : TargetMode
  scenario : Scenario
  warnings : List Warning

namespace Scenario

/-- Builds the scenario of a target mode from the fields of a rule. -/
def read (mode : TargetMode) (grid : Grid) (dash : Bool) : FieldReader Scenario := do
  match mode with
  | .none => return .selfCast (← SelfCast.read grid)
  | .tile => return .tile (← Tile.read grid)
  | .direction | .direction8 =>
    let aiming ← Aiming.read
    if dash && Dash.applies mode aiming then return .dash (.ofAiming aiming grid)
    else return .directional (.ofAiming aiming mode grid)

end Scenario

/-- Builds what a rule shows. -/
def Rule.render (rule : Rule) (grid : Grid) (sliders : Sliders) (options : RenderOptions) :
    Except RenderError Rendered × Sliders :=
  match rule.targetMode with
  | .error error => (.error error, sliders)
  | .ok mode =>
    let (scenario, state) := (Scenario.read mode grid options.dash).run rule ⟨sliders, []⟩
    let warnings :=
      rule.unsupportedWarnings mode ++ state.warnings ++ options.noteWarnings
    (.ok ⟨mode, scenario, warnings⟩, state.sliders)

/-- The outcome of rendering a text. -/
inductive Outcome
  /-- The text is blank. -/
  | empty
  | failed (error : RenderError)
  | ready (rendered : Rendered)

/-- Reads a rule text and builds what it shows. -/
def render (text : String) (grid : Grid) (sliders : Sliders) (options : RenderOptions) :
    Outcome × Sliders :=
  let sliders := sliders.forgetRequired
  if Text.isBlankText text then (.empty, sliders)
  else
    match (Rule.ofText text).render grid sliders options with
    | (.error error, sliders) => (.failed error, sliders)
    | (.ok rendered, sliders) => (.ready rendered, sliders)

end Reticle
