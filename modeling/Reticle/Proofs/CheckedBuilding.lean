import Reticle.Proofs.CheckedLanes
import Reticle.Proofs.Rendering

/-!
# Scenarios built in 32 bits

Building a scenario walks areas: that of a self-cast rule, to see whether there is one, and the
lanes of a directional rule. The lanes are built exactly if they fit (`Directional.LanesFit`), which
they do while five times the side is a 32-bit number and never when twice the side is none. Nothing
else in reading a rule depends on them, so the checked reading leaves the same sliders and warnings
behind, and comes to the same outcome if it comes to any (`checkedRender_refines`).
-/

namespace Reticle

open Checked

/-! ## Lanes -/

namespace Directional

/-- The cells of a lane that can be selected fit, and so do those of a pattern along it. -/
def LaneFits (grid : Grid) (selection : Bounds) (area : LaneArea) (d : Direction) : Prop :=
  (Shape.line selection).Fits grid grid.center (some d) ∧
    ∀ shape, area = .pattern shape → shape.Fits grid grid.center (some d)

/-- The lanes of a directional rule fit. -/
def LanesFit (a : Aiming) (mode : TargetMode) (grid : Grid) : Prop :=
  ∀ d ∈ mode.directions, LaneFits grid (selectionOf a) (areaOf a) d

/-- A lane is made exactly when what can be selected along it fits, and its pattern too. -/
theorem checkedLaneOf_exactly (grid : Grid) (selection : Bounds) (area : LaneArea)
    (sparesActor : Bool) (d : Direction) :
    (checkedLaneOf grid selection area sparesActor d).Exactly
      (laneOf grid selection area sparesActor d) (LaneFits grid selection area d) := by
  have hselection := (Shape.line selection).checkedCells_exactly grid grid.center (some d)
  refine hselection.bind fun _ => ?_
  cases area with
  | splash radius => exact (Exactly.of_ok _).congr (iff_of_true trivial nofun)
  | placed area => exact (Exactly.of_ok _).congr (iff_of_true trivial nofun)
  | pattern shape =>
    refine Exactly.congr ((Area.checkedCells_exactly ⟨shape, sparesActor⟩ grid grid.center
      (some d)).map _) ?_
    exact ⟨fun hfits _ heq => LaneArea.pattern.inj heq ▸ hfits, fun h => h shape rfl⟩

/-- A directional scenario is made exactly when all its lanes fit. -/
theorem checkedOfAiming_exactly (a : Aiming) (mode : TargetMode) (grid : Grid) :
    (checkedOfAiming a mode grid).Exactly (ofAiming a mode grid) (LanesFit a mode grid) :=
  (Exactly.mapM fun d _ => checkedLaneOf_exactly grid _ _ _ d).map _

/-- On grids of moderate size the lanes of every rule fit. -/
theorem lanesFit_of_side_le {grid : Grid} (hside : 5 * grid.side ≤ 0x7FFFFFFF) (a : Aiming)
    (mode : TargetMode) : LanesFit a mode grid := fun d _ =>
  ⟨Shape.fits_of_side_le hside grid.contains_center _ (some d), fun shape _ =>
    shape.fits_of_side_le hside grid.contains_center (some d)⟩

/-- On a grid with more than `2 ^ 30` cells a side no lane can be walked. -/
theorem not_lanesFit_of_lt_side {grid : Grid} (hside : 0x40000000 < grid.side) (a : Aiming)
    {mode : TargetMode} (hmode : mode = .direction ∨ mode = .direction8) :
    ¬ LanesFit a mode grid := by
  have hnorth : Direction.north ∈ mode.directions := by
    rcases hmode with rfl | rfl <;> decide
  intro hfits
  exact Shape.not_fits_of_lt_side hside (.line (selectionOf a)) rfl grid.center
    (hfits .north hnorth).1

end Directional

/-! ## Reading -/

/-- A reading whose result is checked comes to the result of a plain reading, and leaves the same
sliders and warnings behind. -/
def FieldReader.ReadsAs {α : Type} (x : FieldReader (Checked α)) (y : FieldReader α) (S : Prop) :
    Prop :=
  ∀ rule state, (x rule state).1.Refines (y rule state).1 S ∧ (x rule state).2 = (y rule state).2

namespace FieldReader.ReadsAs

variable {α β : Type} {S : Prop}

/-- A value that was computed already reads no field. -/
theorem pure {c : Checked α} {a : α} (h : c.Refines a S) :
    ReadsAs (Pure.pure c : FieldReader (Checked α)) (Pure.pure a) S := fun _ _ => ⟨h, rfl⟩

/-- Fields are read before anything is checked. -/
theorem bind (x : FieldReader β) {f : β → FieldReader (Checked α)} {g : β → FieldReader α}
    (h : ∀ b, (f b).ReadsAs (g b) S) : (x >>= f).ReadsAs (x >>= g) S := fun rule state =>
  h (x rule state).1 rule (x rule state).2

end FieldReader.ReadsAs

section

variable {grid : Grid} {S : Prop} (hS : S → 5 * grid.side ≤ 0x7FFFFFFF)
include hS

/-- Only areas around the actor are computed. -/
theorem Scenario.checkedRead_readsAs (mode : TargetMode) (dash : Bool) :
    (checkedRead mode grid dash).ReadsAs (read mode grid dash) S := by
  have hfits : ∀ (shape : Shape) (facing : Option Direction), S →
      shape.Fits grid grid.center facing := fun shape facing hs =>
    shape.fits_of_side_le (hS hs) grid.contains_center facing
  have haimed : ∀ (mode : TargetMode) (a : Aiming), Refines (do
        let s ← Directional.checkedOfAiming a mode grid
        return Scenario.directional s) (.directional (.ofAiming a mode grid)) S := fun mode a =>
    ((Directional.checkedOfAiming_exactly a mode grid).refines fun hs =>
      Directional.lanesFit_of_side_le (hS hs) a mode).map _
  cases mode with
  | none =>
    refine .bind _ fun s => .pure ?_
    exact ((s.area.checkedCells_exactly grid grid.center none).refines (hfits _ _)).map _
  | tile => exact .bind _ fun t => .pure (.of_ok _ S)
  | direction | direction8 =>
    refine .bind _ fun a => ?_
    split
    · exact .pure (.of_ok _ S)
    · exact .pure (haimed _ a)

/-! ## Rendering -/

/-- Where the sizes are moderate, rendering a rule with 32-bit numbers comes to what rendering it
with whole numbers comes to. -/
theorem Rule.checkedRender_refines (rule : Rule) (sliders : Sliders) (options : RenderOptions) :
    (rule.checkedRender grid sliders options).Refines (rule.render grid sliders options) S := by
  unfold checkedRender render
  cases rule.targetMode with
  | error error => exact .of_ok _ S
  | ok mode =>
    have hread := Scenario.checkedRead_readsAs hS mode options.dash rule ⟨sliders, []⟩
    dsimp only [ReaderT.run]
    revert hread
    generalize Scenario.checkedRead mode grid options.dash rule ⟨sliders, []⟩ = checked
    generalize Scenario.read mode grid options.dash rule ⟨sliders, []⟩ = plain
    rintro ⟨hscenario, hstate⟩
    obtain ⟨scenario, state⟩ := checked
    obtain rfl : state = plain.2 := hstate
    exact hscenario.map _

/-- Rendering in 32 bits comes to the outcome of rendering if it comes to any, and it does while
five times the side of the grid is a 32-bit number. -/
theorem checkedRender_refines (text : String) (sliders : Sliders) (options : RenderOptions) :
    (checkedRender text grid sliders options).Refines (render text grid sliders options) S := by
  unfold checkedRender render
  refine .ite (fun _ => .of_ok _ S) fun _ => ?_
  refine ((Rule.ofText text).checkedRender_refines hS _ options).bind ?_
  rcases (Rule.ofText text).render grid sliders.forgetRequired options with ⟨_ | _, _⟩ <;>
    exact .of_ok _ S

end

/-- Building a tile rule computes nothing with coordinates. -/
theorem Rule.checkedRender_of_tile {rule : Rule} (hmode : rule.targetMode = .ok .tile) (grid : Grid)
    (sliders : Sliders) (options : RenderOptions) :
    rule.checkedRender grid sliders options = .ok (rule.render grid sliders options) := by
  unfold checkedRender render
  rw [hmode]
  rfl

/-- A directional rule that is not played as a dash is built exactly if its lanes fit. -/
theorem Rule.checkedRender_exactly_of_direction {rule : Rule} {mode : TargetMode}
    (hrule : rule.targetMode = .ok mode) (hmode : mode = .direction ∨ mode = .direction8)
    (grid : Grid) (sliders : Sliders) {options : RenderOptions} (hdash : options.dash = false) :
    (rule.checkedRender grid sliders options).Exactly (rule.render grid sliders options)
      (Directional.LanesFit (Aiming.read rule ⟨sliders, []⟩).1 mode grid) := by
  have hlanes := Directional.checkedOfAiming_exactly (Aiming.read rule ⟨sliders, []⟩).1 mode grid
  unfold checkedRender render
  rw [hrule, hdash]
  rcases hmode with rfl | rfl
  · exact (hlanes.map Scenario.directional).map _
  · exact (hlanes.map Scenario.directional).map _

end Reticle
