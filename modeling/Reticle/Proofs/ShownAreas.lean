import Reticle.Proofs.DirectionalTile
import Reticle.Proofs.Frames
import Reticle.Proofs.Rendering
import Reticle.Proofs.Targets

/-!
# Areas that are shown without a choice

An area that is shown without a choice is that of the actor's own cell. Where it is cast from the
actor and the actor's cell is in it, every target has the same area, and hovering adds no mark to a
frame (`render_alwaysShown_area`). A rule whose area is everywhere counts as shown without a choice
also when it spares the actor or has a radius, and then it is not so: a spared actor's cell is no
target and has no area (`areaCells_of_spared`), and a splash lies around the selected cell.
-/

namespace Reticle

/-! ## Areas that lanes share -/

namespace Directional

variable {s : Directional} {board : Board} {c : Cell} {cells : List Cell}

/-- Where all lanes have one pattern, that is the area of every target. -/
theorem areaCells_of_shared {shape : Shape} (harea : s.area = .pattern shape)
    (hshared : ∀ lane ∈ s.lanes, lane.pattern = cells)
    (htarget : (DirectionalSurvey.of s board).isTargetable c = true) :
    (DirectionalSurvey.of s board).areaCells c = cells := by
  have hc : (DirectionalSurvey.of s board).scenario.grid.contains c = true :=
    (isTargetable_iff.1 htarget).1
  have hsome : ((DirectionalSurvey.of s board).hit? c).isSome = true := htarget
  rw [DirectionalSurvey.hit?_of_pattern hc harea, Option.isSome_map] at hsome
  obtain ⟨lane, hlane⟩ := Option.isSome_iff_exists.1 hsome
  obtain ⟨l, hl, rfl, -⟩ := DirectionalSurvey.of_bestPattern? hlane
  obtain ⟨lane', hlane', rfl⟩ := List.mem_map.1 hl
  rw [DirectionalSurvey.areaCells_of_pattern hc harea, hlane]
  exact hshared lane' hlane'

/-- Then every cell of the pattern is a target as soon as there is one. -/
theorem isTargetable_of_shared {shape : Shape} (harea : s.area = .pattern shape)
    (hshared : ∀ lane ∈ s.lanes, lane.pattern = cells)
    (htarget : (DirectionalSurvey.of s board).isTargetable c = true) {e : Cell}
    (he : s.grid.contains e = true) (hmem : e ∈ cells) :
    (DirectionalSurvey.of s board).isTargetable e = true := by
  obtain ⟨-, lane, hlane, source, hsource, hclear, -⟩ := isTargetable_iff.1 htarget
  refine isTargetable_iff.2 ⟨he, lane, hlane, source, hsource, hclear, ?_⟩
  unfold Covers
  rw [harea]
  exact (hshared lane hlane).symm ▸ hmem

/-- Without a radius, an area that is everywhere is the pattern of every lane. -/
theorem everywhere_of_alwaysShown {a : Aiming} {mode : TargetMode} {grid : Grid}
    (hshown : (ofAiming a mode grid).alwaysShown = true)
    (hsplash : Number.isPositive a.splash = false) :
    (ofAiming a mode grid).area = .pattern .everywhere ∧
      ∀ lane ∈ (ofAiming a mode grid).lanes, lane.pattern =
        if a.sparesActor then grid.cells.filter (· != grid.center) else grid.cells := by
  have hall : a.effectiveMode = .all := of_decide_eq_true hshown
  have harea : areaOf a = .pattern .everywhere := by
    unfold areaOf
    rw [hsplash, hall]
    rfl
  refine ⟨harea, ?_⟩
  intro lane hlane
  obtain ⟨d, -, rfl⟩ := List.mem_map.1 hlane
  unfold laneOf
  rw [harea]
  rfl

/-- An area that is everywhere and spares the actor is not that of the actor's own cell, which is
no target. -/
theorem areaCells_of_spared {a : Aiming} {mode : TargetMode} {grid : Grid}
    (hshown : (ofAiming a mode grid).alwaysShown = true)
    (hsplash : Number.isPositive a.splash = false) (hspares : a.sparesActor = true)
    (htarget : (DirectionalSurvey.of (ofAiming a mode grid) board).isTargetable c = true) :
    (∀ e, e ∈ (DirectionalSurvey.of (ofAiming a mode grid) board).areaCells c ↔
        grid.contains e = true ∧ e ≠ grid.center) ∧
      (DirectionalSurvey.of (ofAiming a mode grid) board).areaCells grid.center = [] := by
  obtain ⟨harea, hshared⟩ := everywhere_of_alwaysShown hshown hsplash
  rw [hspares, if_pos rfl] at hshared
  constructor
  · intro e
    rw [areaCells_of_shared harea hshared htarget, List.mem_filter, Grid.mem_cells, bne_iff_ne]
  · refine (sound (regular_ofAiming a mode grid) (c := grid.center)).areaCells_eq_nil ?_
    by_contra hcenter
    obtain ⟨-, lane, hlane, source, -, -, hcovers⟩ :=
      isTargetable_iff.1 (Bool.eq_true_of_not_eq_false hcenter)
    unfold Covers at hcovers
    rw [harea] at hcovers
    have hmem : grid.center ∈ lane.pattern := hcovers
    rw [hshared lane hlane] at hmem
    simpa using (List.mem_filter.1 hmem).2

end Directional

/-! ## Rules -/

/-- The fields with a radius of the area give no positive one. -/
def Rule.Unsplashed (given : Sliders) (rule : Rule) : Prop :=
  ∀ radius, rule.firstNumberIn given splashKeys = some radius → Number.isPositive radius = false

/-- Without a splash in the rule there is none in the aiming. -/
theorem Aiming.ReadFrom.isPositive_splash {given : Sliders} {rule : Rule} {a : Aiming}
    (h : a.ReadFrom given rule) (hsplash : rule.Unsplashed given) :
    Number.isPositive a.splash = false := by
  rw [h.splash]
  refine Number.isPositive_nonNegative ?_
  cases hradius : rule.firstNumberIn given Rule.splashKeys with
  | none => decide +kernel
  | some radius => exact hsplash radius hradius

namespace Scenario.ReadFrom

variable {given : Sliders} {rule : Rule} {grid : Grid} {mode : TargetMode} {s : Scenario}
  (h : s.ReadFrom given rule grid mode) (hshown : s.alwaysShown = true)
  (hsplash : rule.Unsplashed given) {board : Board} {c : Cell}
include h hshown hsplash

/-- An area that is shown without a choice and does not spare the actor is that of every target,
and it has a cell. -/
theorem areaCells_eq (hspares : mode ≠ .none → rule.flag "aoe_excludes_self" = false)
    (htarget : s.isTargetable board c = true) :
    s.areaCells board c = s.areaCells board grid.center ∧ s.areaCells board c ≠ [] := by
  cases h with
  | @selfCast s hgrid =>
    have hcenter : c = s.grid.center := eq_of_beq htarget
    rw [hcenter, hgrid]
    refine ⟨rfl, ?_⟩
    show s.areaCells grid.center ≠ []
    have hcell : (!(s.areaCells s.grid.center).isEmpty) = true := hshown
    rw [hgrid] at hcell
    simpa using hcell
  | tile hgrid => exact absurd hshown Bool.false_ne_true
  | dash happlies hfields hlists => exact absurd hshown Bool.false_ne_true
  | @directional mode hmode a hfields hlists =>
    -- A directional rule that is always shown affects the whole grid, from every target.
    have hflag := hspares (by rcases hmode with rfl | rfl <;> simp)
    obtain ⟨harea, hshared⟩ := Directional.everywhere_of_alwaysShown hshown
      (hfields.isPositive_splash hsplash)
    rw [hfields.sparesActor, hflag, if_neg Bool.false_ne_true] at hshared
    have hmem : grid.center ∈ grid.cells := Grid.mem_cells.2 grid.contains_center
    have hcenter := Directional.isTargetable_of_shared harea hshared htarget grid.contains_center
      hmem
    have hcells : areaCells (.directional (.ofAiming a mode grid)) board c = grid.cells :=
      Directional.areaCells_of_shared harea hshared htarget
    refine ⟨hcells.trans (Directional.areaCells_of_shared harea hshared hcenter).symm, ?_⟩
    rw [hcells]
    exact List.ne_nil_of_mem hmem

/-- If a directional rule spares the actor, it is not the area of the actor's cell. -/
theorem areaCells_of_spared (hmode : mode ≠ .none) (hspares : rule.flag "aoe_excludes_self" = true)
    (htarget : s.isTargetable board c = true) :
    (∀ a, a ∈ s.areaCells board c ↔ grid.contains a = true ∧ a ≠ grid.center) ∧
      s.areaCells board grid.center = [] := by
  cases h with
  | selfCast hgrid => exact absurd rfl hmode
  | tile hgrid => exact absurd hshown Bool.false_ne_true
  | dash happlies hfields hlists => exact absurd hshown Bool.false_ne_true
  | directional hdirectional hfields hlists =>
    exact Directional.areaCells_of_spared hshown (hfields.isPositive_splash hsplash)
      (hfields.sparesActor.trans hspares) htarget

end Scenario.ReadFrom

/-- Where the area of a target is shown without a choice, hovering over it adds no mark of an
affected cell. -/
theorem Session.Settled.area_marksAt_unhover {s : Session} {grid : Grid} (hs : s.Settled grid)
    {rendered : Rendered} (hr : s.rendered? = some rendered)
    (hshown : rendered.scenario.alwaysShown = true) {c : Cell}
    (htarget : rendered.scenario.isTargetable s.board c = true)
    (hcells : rendered.scenario.areaCells s.board c =
      rendered.scenario.areaCells s.board s.board.grid.center)
    (hne : rendered.scenario.areaCells s.board c ≠ []) {a : Cell} (ha : grid.contains a = true) :
    (s.unhover.frame.marksAt a).area = ((s.hover c).frame.marksAt a).area := by
  have hshowncells : rendered.scenario.shown s.board = rendered.scenario.areaCells s.board c := by
    unfold Scenario.shown
    rw [if_pos hshown, hcells]
  have hpreview : rendered.scenario.preview s.board c =
      some ⟨c, rendered.scenario.areaCells s.board c⟩ := by
    unfold Scenario.preview
    rw [if_pos htarget, if_neg (by simpa using hne)]
  have hunhovered : (s.unhover.frame.marksAt a).area =
      ((rendered.scenario.shown s.board).contains a || false) :=
    (hs.apply .unhover).area_marksAt_frame hr ha
  have hhovered : ((s.hover c).frame.marksAt a).area =
      ((rendered.scenario.shown s.board).contains a ||
        (rendered.scenario.preview s.board c).any (·.affected.contains a)) :=
    (hs.apply (.hover c)).area_marksAt_frame hr ha
  rw [hunhovered, hhovered, hpreview, hshowncells]
  simp

/-- What is shown without a choice, for rules whose area has no radius. If a directional rule does
not spare the actor, the area of every target is that of the actor's cell, so that a frame without a
hovered cell has the marks of affected cells that it has with any target hovered. If it spares the
actor, every target affects the whole grid but the actor's cell, and the actor's cell affects
nothing. -/
theorem render_alwaysShown_area {text : String} {grid : Grid} {sliders after : Sliders}
    {options : RenderOptions} {rendered : Rendered}
    (h : render text grid sliders options = (.ready rendered, after))
    (hshown : rendered.scenario.alwaysShown = true)
    (hsplash : (Rule.ofText text).Unsplashed sliders.forgetRequired) :
    ((rendered.mode ≠ .none → (Rule.ofText text).flag "aoe_excludes_self" = false) →
      (∀ board c, rendered.scenario.isTargetable board c = true →
        rendered.scenario.areaCells board c = rendered.scenario.areaCells board grid.center) ∧
      ∀ s : Session, s.Settled grid → s.rendered? = some rendered → ∀ c,
        rendered.scenario.isTargetable s.board c = true → ∀ a, grid.contains a = true →
          (s.unhover.frame.marksAt a).area = ((s.hover c).frame.marksAt a).area) ∧
    (rendered.mode ≠ .none → (Rule.ofText text).flag "aoe_excludes_self" = true →
      ∀ board c, rendered.scenario.isTargetable board c = true →
        (∀ a, a ∈ rendered.scenario.areaCells board c ↔
          grid.contains a = true ∧ a ≠ grid.center) ∧
        rendered.scenario.areaCells board grid.center = []) := by
  have hread := readFrom_of_render h
  constructor
  · intro hspares
    have hcells : ∀ board c, rendered.scenario.isTargetable board c = true →
        rendered.scenario.areaCells board c = rendered.scenario.areaCells board grid.center ∧
          rendered.scenario.areaCells board c ≠ [] :=
      fun board c htarget => hread.areaCells_eq hshown hsplash hspares htarget
    refine ⟨fun board c htarget => (hcells board c htarget).1, ?_⟩
    intro s hs hr c htarget a ha
    obtain ⟨hcenter, hne⟩ := hcells s.board c htarget
    exact hs.area_marksAt_unhover hr hshown htarget (hs.grid_eq ▸ hcenter) hne ha
  · intro hmode hspares board c htarget
    exact hread.areaCells_of_spared hshown hsplash hmode hspares htarget

/-- A rule that affects the whole grid. -/
def everywhereRule : String :=
  "target_mode direction\naoe_mode all"

/-- With this rule, any target shows what is shown without a choice. -/
theorem render_alwaysShown_area_example :
    ∃ rendered after, render everywhereRule (.ofSide 3) .empty .standard = (.ready rendered, after) ∧
      rendered.scenario.alwaysShown = true ∧
      ∀ c, rendered.scenario.isTargetable (.empty (.ofSide 3)) c = true →
        rendered.scenario.areaCells (.empty (.ofSide 3)) c =
          rendered.scenario.areaCells (.empty (.ofSide 3)) ⟨1, 1⟩ := by
  have hblank : ¬ Text.isBlankText everywhereRule = true := by decide +kernel
  have hmode : (Rule.ofText everywhereRule).targetMode = .ok .direction := by decide +kernel
  have hspares : (Rule.ofText everywhereRule).flag "aoe_excludes_self" = false := by decide +kernel
  have hradius : (Rule.ofText everywhereRule).firstNumberIn Sliders.empty.forgetRequired
      Rule.splashKeys = none := by decide +kernel
  obtain ⟨rendered, after, hready, -, hscenario⟩ :=
    exists_render_of_targetMode hblank hmode (.ofSide 3) .empty .standard
  have hshown : rendered.scenario.alwaysShown = true := by
    rw [hscenario]
    decide +kernel
  have hsplash : (Rule.ofText everywhereRule).Unsplashed Sliders.empty.forgetRequired := by
    intro radius hsome
    rw [hradius] at hsome
    cases hsome
  refine ⟨rendered, after, hready, hshown, fun c htarget => ?_⟩
  exact ((render_alwaysShown_area hready hshown hsplash).1 fun _ => hspares).1 _ c htarget

/-- Under a rule whose area counts as shown without a choice, the cell below the actor is a target
with an area that has itself, and the area of the actor's cell does not have it. -/
def ShowsOtherArea (text : String) : Prop :=
  ∃ rendered after, render text (.ofSide 3) .empty .standard = (.ready rendered, after) ∧
    rendered.scenario.alwaysShown = true ∧
    rendered.scenario.isTargetable (.empty (.ofSide 3)) ⟨2, 1⟩ = true ∧
    ⟨2, 1⟩ ∈ rendered.scenario.areaCells (.empty (.ofSide 3)) ⟨2, 1⟩ ∧
    ⟨2, 1⟩ ∉ rendered.scenario.areaCells (.empty (.ofSide 3)) (Grid.ofSide 3).center

/-- It is enough to look at the scenario that is read from the rule. -/
theorem showsOtherArea_of_read {text : String} (hblank : ¬ Text.isBlankText text = true)
    (hmode : (Rule.ofText text).targetMode = .ok .direction)
    (hread : let s := (Scenario.read .direction (.ofSide 3) false (Rule.ofText text)
        ⟨Sliders.empty.forgetRequired, []⟩).1
      s.alwaysShown = true ∧ s.isTargetable (.empty (.ofSide 3)) ⟨2, 1⟩ = true ∧
        ⟨2, 1⟩ ∈ s.areaCells (.empty (.ofSide 3)) ⟨2, 1⟩ ∧
        ⟨2, 1⟩ ∉ s.areaCells (.empty (.ofSide 3)) (Grid.ofSide 3).center) :
    ShowsOtherArea text := by
  obtain ⟨rendered, after, hready, -, hscenario⟩ :=
    exists_render_of_targetMode hblank hmode (.ofSide 3) .empty .standard
  refine ⟨rendered, after, hready, ?_⟩
  rw [hscenario]
  exact hread

/-- The area of the whole grid is not that of the actor's cell if the actor is spared or if there is
a radius. -/
theorem areaCells_ne_of_exceptional :
    ShowsOtherArea "target_mode direction\naoe_mode all\naoe_excludes_self true" ∧
      ShowsOtherArea "target_mode direction\naoe_mode all\naoe_radius 1" :=
  ⟨showsOtherArea_of_read (by decide +kernel) (by decide +kernel) (by decide +kernel),
    showsOtherArea_of_read (by decide +kernel) (by decide +kernel) (by decide +kernel)⟩

end Reticle
