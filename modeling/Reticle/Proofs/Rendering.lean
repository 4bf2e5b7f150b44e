import Reticle.Proofs.Answers

/-!
# What is shown is read from the fields

A text that can be shown is read as one of four kinds of scenarios, and its target mode says which.
`Scenario.ReadFrom` lists them with what is known of each; the two directional kinds are built from
the same reading of the fields. Every rendering is such a reading (`readFrom_of_render`).
-/

namespace Reticle

open FieldReader

variable {given : Sliders} {rule : Rule}

/-- Two facts on what is read may be established one by one. -/
theorem FieldReader.Yields.and {α : Type} {x : FieldReader α} {P Q : α → Prop}
    (hP : Yields given rule x P) (hQ : Yields given rule x Q) :
    Yields given rule x fun a => P a ∧ Q a := by
  intro σ hσ
  obtain ⟨hp, hkept⟩ := hP σ hσ
  exact ⟨⟨hp, (hQ σ hσ).1⟩, hkept⟩

/-- Where the listed offsets of a directional rule come from, and whether they turn. -/
structure Aiming.ListsFrom (rule : Rule) (aiming : Aiming) : Prop where
  offsets : aiming.offsets = if aiming.mode = .custom then rule.areaOffsets else []
  turning : aiming.turning = !rule.flag "dont_orient_aoe"

/-- The lists of an aiming are read from the rule as they stand. -/
theorem Aiming.yields_lists : Yields given rule read (ListsFrom rule) := by
  unfold read
  refine (yields_number "min_range").bind fun min _ => ?_
  refine (yields_number "max_range").bind fun max _ => ?_
  refine (yields_keyword AreaMode.ofName? "aoe_mode").bind fun mode _ => ?_
  refine (yields_firstNumber ["aoe_radius", "max_aoe_radius", "max_area"]).bind fun radius _ => ?_
  refine yields_rule.bind ?_
  rintro _ rfl
  refine (yields_number "min_aoe").bind fun least _ => ?_
  refine (yields_number "max_aoe").bind fun greatest _ => ?_
  exact Yields.pure ⟨rfl, rfl⟩

/-- The scenarios that a rule with a target mode is read as. -/
inductive Scenario.ReadFrom (given : Sliders) (rule : Rule) (grid : Grid) :
    TargetMode → Scenario → Prop
  | selfCast {s : SelfCast} (hgrid : s.grid = grid) : ReadFrom given rule grid .none (.selfCast s)
  | tile {t : Tile} (hgrid : t.grid = grid) : ReadFrom given rule grid .tile (.tile t)
  | directional {mode : TargetMode} (hmode : mode = .direction ∨ mode = .direction8) {a : Aiming}
    (hfields : a.ReadFrom given rule) (hlists : a.ListsFrom rule) :
    ReadFrom given rule grid mode (.directional (.ofAiming a mode grid))
  | dash {mode : TargetMode} {a : Aiming} (happlies : Dash.applies mode a = true)
    (hfields : a.ReadFrom given rule) (hlists : a.ListsFrom rule) :
    ReadFrom given rule grid mode (.dash (.ofAiming a grid))

/-- A rule that is aimed along directions gives a directional scenario or a dash. -/
theorem Scenario.ReadFrom.aimed {grid : Grid} {mode : TargetMode} {s : Scenario}
    (h : s.ReadFrom given rule grid mode) (hmode : mode = .direction ∨ mode = .direction8) :
    ∃ a : Aiming, a.ReadFrom given rule ∧ a.ListsFrom rule ∧
      (s = .directional (.ofAiming a mode grid) ∨
        Dash.applies mode a = true ∧ s = .dash (.ofAiming a grid)) := by
  cases h with
  | selfCast hgrid => rcases hmode with hmode | hmode <;> cases hmode
  | tile hgrid => rcases hmode with hmode | hmode <;> cases hmode
  | directional hdirectional hfields hlists => exact ⟨_, hfields, hlists, .inl rfl⟩
  | dash happlies hfields hlists => exact ⟨_, hfields, hlists, .inr ⟨happlies, rfl⟩⟩

namespace Scenario

/-- A rule with an aiming is read as a scenario made of its fields. -/
theorem yields_readFrom_of_aiming {mode : TargetMode}
    (hmode : mode = .direction ∨ mode = .direction8) (grid : Grid) (dash : Bool) :
    Yields given rule
      (do
        let aiming ← Aiming.read
        if dash && Dash.applies mode aiming then return .dash (.ofAiming aiming grid)
        else return .directional (.ofAiming aiming mode grid))
      (ReadFrom given rule grid mode) := by
  apply ((Aiming.yields_read given rule).and Aiming.yields_lists).bind
  rintro aiming ⟨hfields, hlists⟩
  split
  · next happlies =>
    exact Yields.pure (.dash (Bool.and_eq_true_iff.1 happlies).2 hfields hlists)
  · exact Yields.pure (.directional hmode hfields hlists)

/-- Whatever the mode, the scenario that is read is made of the fields of the rule. -/
theorem yields_readFrom (mode : TargetMode) (grid : Grid) (dash : Bool) :
    Yields given rule (read mode grid dash) (ReadFrom given rule grid mode) := by
  cases mode with
  | none =>
    apply (SelfCast.yields_built given rule grid).bind
    intro s hs
    exact Yields.pure (.selfCast hs.1)
  | tile =>
    apply (Tile.yields_built given rule grid).bind
    intro t ht
    exact Yields.pure (.tile ht.1)
  | direction => exact yields_readFrom_of_aiming (.inl rfl) grid dash
  | direction8 => exact yields_readFrom_of_aiming (.inr rfl) grid dash

end Scenario

/-- A text with a target mode can be shown. -/
theorem exists_render_of_targetMode {text : String} (hblank : ¬ Text.isBlankText text = true)
    {mode : TargetMode} (hmode : (Rule.ofText text).targetMode = .ok mode) (grid : Grid)
    (sliders : Sliders) (options : RenderOptions) :
    ∃ rendered after, render text grid sliders options = (.ready rendered, after) ∧
      rendered.mode = mode ∧ rendered.scenario =
        (Scenario.read mode grid options.dash (Rule.ofText text) ⟨sliders.forgetRequired, []⟩).1 := by
  rw [render_of_not_blank hblank]
  unfold Rule.render
  rw [hmode]
  exact ⟨_, _, rfl, rfl, rfl⟩

/-- What a text shows is read from its fields. -/
theorem readFrom_of_render {text : String} {grid : Grid} {sliders after : Sliders}
    {options : RenderOptions} {rendered : Rendered}
    (h : render text grid sliders options = (.ready rendered, after)) :
    rendered.scenario.ReadFrom sliders.forgetRequired (Rule.ofText text) grid rendered.mode := by
  obtain ⟨-, hscenario⟩ := read_of_render h
  have hread := @Scenario.yields_readFrom _ (Rule.ofText text) rendered.mode grid options.dash
    ⟨sliders.forgetRequired, []⟩ (Sliders.SameValues.refl sliders.forgetRequired)
  rw [hscenario]
  exact hread.1

end Reticle
