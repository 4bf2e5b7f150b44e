import Reticle.Proofs.AreaCells
import Reticle.Proofs.Choices
import Reticle.Proofs.FieldSpecs

/-!
# What all answers have in common

Four kinds of scenarios find targets and areas in ways of their own. Their answers keep the same
contract (`Survey.Sound`): an area is a list of cells of the grid, each once, which leaves out the
actor's cell if that is spared; what is no target has no area; and no cell off the grid is a target.
Reading a rule ties the grid and the choice to spare the actor to the scenario (`built_of_render`),
so that the contract holds of every rule that can be shown.
-/

namespace Reticle

/-- The contract of the answers for one cell. -/
structure Survey.Sound (s : Survey) (g : Grid) (sparesActor : Bool) (c : Cell) : Prop where
  lists : g.Lists sparesActor (s.areaCells c)
  areaCells_eq_nil : s.isTargetable c = false → s.areaCells c = []
  isTargetable_eq_false : g.contains c = false → s.isTargetable c = false

/-! ## Self-cast rules -/

/-- A self cast answers soundly: its only target is the centre, and its area is listed properly. -/
theorem SelfCast.sound (s : SelfCast) (c : Cell) :
    (Survey.selfCast s).Sound s.grid s.area.sparesActor c := by
  refine ⟨?_, ?_, ?_⟩
  · show s.grid.Lists s.area.sparesActor (s.areaCells c)
    unfold SelfCast.areaCells
    split
    · next htarget =>
      have hcenter : c = s.grid.center := eq_of_beq htarget
      exact s.area.lists_cells (hcenter ▸ s.grid.contains_center) none
    · exact s.grid.lists_nil _
  · intro htarget
    exact if_neg (Bool.eq_false_iff.1 htarget)
  · intro hout
    refine beq_eq_false_iff_ne.2 ?_
    rintro rfl
    rw [s.grid.contains_center] at hout
    exact Bool.noConfusion hout

/-! ## Tile rules -/

namespace Tile

variable {t : Tile} {board : Board}

/-- A legal origin is a cell of the grid. -/
theorem contains_of_isOrigin {c : Cell} (h : t.isOrigin board c = true) :
    t.grid.contains c = true := by
  unfold isOrigin at h
  exact (Bool.and_eq_true_iff.1 (Bool.and_eq_true_iff.1 h).1).1

/-- Every entry of a survey is a legal origin with the area around it. -/
theorem exists_of_mem_reach {entry : Cell × List Cell}
    (h : entry ∈ (TileSurvey.of t board).reach) :
    ∃ origin, t.isOrigin board origin = true ∧ entry = (origin, t.areaFrom origin) := by
  unfold TileSurvey.of at h
  dsimp only at h
  split at h
  · obtain ⟨origin, horigin, rfl⟩ := List.mem_map.1 h
    exact ⟨origin, (List.mem_filter.1 horigin).2, rfl⟩
  · exact absurd h List.not_mem_nil

/-- The area thrown from a legal origin is a proper listing of cells. -/
theorem lists_areaFrom {origin : Cell} (h : t.isOrigin board origin = true) :
    t.grid.Lists t.area.sparesActor (t.areaFrom origin) :=
  t.area.lists_cells (contains_of_isOrigin h) _

/-- The area of the nearest origin, which covers the cell. -/
theorem lists_of_nearest? {c : Cell} {entry : Cell × List Cell}
    (h : (TileSurvey.of t board).nearest? c = some entry) :
    t.grid.Lists t.area.sparesActor entry.2 ∧ c ∈ entry.2 := by
  obtain ⟨hmem, hcovers⟩ := TileSurvey.mem_of_nearest? h
  obtain ⟨origin, horigin, rfl⟩ := exists_of_mem_reach hmem
  exact ⟨lists_areaFrom horigin, hcovers⟩

/-- A tile scenario answers soundly on every board. -/
theorem sound (t : Tile) (board : Board) (c : Cell) :
    (Survey.tile (.of t board)).Sound t.grid t.area.sparesActor c := by
  refine ⟨?_, ?_, ?_⟩
  · show t.grid.Lists t.area.sparesActor ((TileSurvey.of t board).areaCells c)
    unfold TileSurvey.areaCells
    split
    · next horigin => exact lists_areaFrom horigin
    · cases hnearest : (TileSurvey.of t board).nearest? c with
      | none => exact t.grid.lists_nil _
      | some entry => exact (lists_of_nearest? hnearest).1
  · intro htarget
    obtain ⟨horigin, hnearest⟩ := Bool.or_eq_false_iff.1 htarget
    show (TileSurvey.of t board).areaCells c = []
    unfold TileSurvey.areaCells
    rw [if_neg (Bool.eq_false_iff.1 horigin),
      Option.isNone_iff_eq_none.1 (Option.isSome_eq_false_iff.1 hnearest)]
    rfl
  · intro hout
    show ((TileSurvey.of t board).tile.isOrigin board c ||
      ((TileSurvey.of t board).nearest? c).isSome) = false
    rw [Bool.or_eq_false_iff]
    constructor
    · by_contra horigin
      have hin : t.grid.contains c = true :=
        contains_of_isOrigin (Bool.eq_true_of_not_eq_false horigin)
      rw [hout] at hin
      exact Bool.noConfusion hin
    · cases hnearest : (TileSurvey.of t board).nearest? c with
      | none => rfl
      | some entry =>
        obtain ⟨hlists, hcovers⟩ := lists_of_nearest? hnearest
        exact absurd hcovers (hlists.not_mem hout)

end Tile

/-! ## Directional rules -/

/-- The lanes of a scenario lie on its grid, and its choice to spare the actor is also that of its
patterns and of its area around the selected cell. -/
structure Directional.Regular (s : Directional) : Prop where
  selection : ∀ lane ∈ s.lanes, ∀ c ∈ lane.selection, s.grid.contains c = true
  pattern : ∀ lane ∈ s.lanes, s.grid.Lists s.sparesActor lane.pattern
  placed : ∀ area, s.area = .placed area → area.sparesActor = s.sparesActor

namespace Directional

/-- A placed area spares the actor exactly when the fields that describe the aiming say so. -/
theorem sparesActor_of_areaOf {a : Aiming} {area : Area} (h : areaOf a = .placed area) :
    area.sparesActor = a.sparesActor := by
  unfold areaOf at h
  split at h
  · cases h
  · split at h <;> cases h
    rfl

/-- A scenario made from the fields of its aiming is regular. -/
theorem regular_ofAiming (a : Aiming) (mode : TargetMode) (grid : Grid) :
    (ofAiming a mode grid).Regular := by
  refine ⟨?_, ?_, fun area h => sparesActor_of_areaOf h⟩
  · intro lane hlane c hc
    obtain ⟨d, -, rfl⟩ := List.mem_map.1 hlane
    exact (grid.lists_clip _).inside c hc
  · intro lane hlane
    obtain ⟨d, -, rfl⟩ := List.mem_map.1 hlane
    show grid.Lists a.sparesActor (laneOf grid (selectionOf a) (areaOf a) a.sparesActor d).pattern
    unfold laneOf
    cases areaOf a with
    | splash radius => exact grid.lists_nil _
    | placed area => exact grid.lists_nil _
    | pattern shape =>
      exact Area.lists_cells grid.contains_center (some d) ⟨shape, a.sparesActor⟩

variable {s : Directional} (h : s.Regular) {board : Board} {c : Cell}
include h

/-- The source of a splash lies on the grid. -/
theorem contains_source {radius : Float} {source : Cell}
    (hsource : (DirectionalSurvey.of s board).splashSource? c radius = some source) :
    s.grid.contains source = true := by
  obtain ⟨-, ⟨lane, hlane, hclear⟩, -⟩ := DirectionalSurvey.of_splashSource? hsource
  obtain ⟨l, hl, rfl⟩ := List.mem_map.1 hlane
  exact h.selection l hl source (List.mem_of_mem_filter hclear)

/-- The pattern chosen for a cell is a proper listing of cells. -/
theorem lists_of_bestPattern? {lane : Lane}
    (hlane : (DirectionalSurvey.of s board).bestPattern? c = some lane) :
    s.grid.Lists s.sparesActor lane.pattern := by
  obtain ⟨l, hl, rfl, -⟩ := DirectionalSurvey.of_bestPattern? hlane
  obtain ⟨l', hl', rfl⟩ := List.mem_map.1 hl
  exact h.pattern l' hl'

/-- The area of every cell of the grid is a proper listing, whichever branch gave it. -/
theorem lists_areaCells (hc : s.grid.contains c = true) :
    s.grid.Lists s.sparesActor ((DirectionalSurvey.of s board).areaCells c) := by
  have hcontains : (DirectionalSurvey.of s board).scenario.grid.contains c = true := hc
  cases harea : s.area with
  | splash radius =>
    rw [DirectionalSurvey.areaCells_of_splash hcontains harea]
    cases hsource : (DirectionalSurvey.of s board).splashSource? c radius with
    | none => exact s.grid.lists_nil _
    | some source =>
      exact Area.lists_cells (contains_source h hsource) none ⟨.band ⟨0, radius⟩, s.sparesActor⟩
  | placed area =>
    rw [DirectionalSurvey.areaCells_of_placed hcontains harea, ← h.placed area harea]
    cases (DirectionalSurvey.of s board).lanes.find? (·.clear.contains c) with
    | none => exact s.grid.lists_nil _
    | some lane => exact area.lists_cells hc (some lane.lane.direction)
  | pattern shape =>
    rw [DirectionalSurvey.areaCells_of_pattern hcontains harea]
    cases hlane : (DirectionalSurvey.of s board).bestPattern? c with
    | none => exact s.grid.lists_nil _
    | some lane => exact lists_of_bestPattern? h hlane

/-- A directional scenario answers soundly on every board. -/
theorem sound : (Survey.directional (.of s board)).Sound s.grid s.sparesActor c := by
  refine ⟨?_, ?_, ?_⟩
  · show s.grid.Lists s.sparesActor ((DirectionalSurvey.of s board).areaCells c)
    cases hc : s.grid.contains c with
    | true => exact lists_areaCells h hc
    | false =>
      rw [DirectionalSurvey.areaCells_of_hit?_eq_none (DirectionalSurvey.hit?_of_not_contains hc)]
      exact s.grid.lists_nil _
  · intro htarget
    exact DirectionalSurvey.areaCells_of_hit?_eq_none
      (Option.isNone_iff_eq_none.1 (Option.isSome_eq_false_iff.1 htarget))
  · intro hout
    show ((DirectionalSurvey.of s board).hit? c).isSome = false
    rw [DirectionalSurvey.hit?_of_not_contains hout]
    rfl

end Directional

/-! ## Dashes -/

namespace Dash

variable {s : Dash} {board : Board} {d : Direction}

/-- A dash passes cells of the grid only. -/
theorem contains_of_mem_path {c : Cell} (h : c ∈ s.path board d) : s.grid.contains c = true := by
  have hgoes := List.mem_takeWhile_imp (p := fun c => s.grid.contains c && !board.isBlocked c) h
  exact (Bool.and_eq_true_iff.1 hgoes).1

/-- Every step of a dash leads further away from the actor. -/
theorem center_not_mem_path : s.grid.center ∉ s.path board d := by
  intro hmem
  obtain ⟨steps, hsteps, hcenter⟩ := List.mem_map.1 ((List.takeWhile_sublist _).subset hmem)
  have hpos : 1 ≤ steps := (mem_wholeNumbers.1 hsteps).1
  have hrow := congrArg Cell.row hcenter
  have hcol := congrArg Cell.col hcenter
  unfold Cell.step Cell.shift at hrow hcol
  cases d <;> simp only [Direction.row, Direction.col] at hrow hcol <;> omega

/-- A dash comes to rest on the grid, at the centre when it cannot move at all. -/
theorem contains_stop : s.grid.contains (s.lane board d).stop = true := by
  show s.grid.contains ((s.path board d).getLastD s.grid.center) = true
  have hmem : (s.path board d).getLastD s.grid.center ∈ s.grid.center :: s.path board d :=
    List.getLastD_mem_cons
  rcases List.mem_cons.1 hmem with hstop | hstop
  · rw [hstop]
    exact s.grid.contains_center
  · exact contains_of_mem_path hstop

/-- The cells a lane hits are a proper listing. -/
theorem lists_hits : s.grid.Lists s.area.sparesActor (s.lane board d).hits := by
  have hstop : s.grid.contains (s.lane board d).stop = true := contains_stop
  have harea := s.area.lists_cells hstop (some d)
  have hmem : ∀ c ∈ (s.lane board d).hits, c ∈ s.path board d ∨
      c ∈ s.area.cells s.grid (s.lane board d).stop (some d) := by
    intro c hc
    exact List.mem_append.1 (List.mem_eraseDups.1 hc)
  refine ⟨?_, nodup_eraseDups _, ?_⟩
  · intro c hc
    rcases hmem c hc with hpath | hstruck
    · exact contains_of_mem_path hpath
    · exact harea.inside c hstruck
  · intro hspares hcenter
    rcases hmem _ hcenter with hpath | hstruck
    · exact center_not_mem_path hpath
    · exact harea.spared hspares hstruck

/-- The dash for a cell, which hits it. -/
theorem lists_of_laneFor? {c : Cell} {lane : DashLane}
    (h : (DashSurvey.of s board).laneFor? c = some lane) :
    s.grid.Lists s.area.sparesActor lane.hits ∧ c ∈ lane.hits := by
  obtain ⟨hmem, hhits⟩ := DashSurvey.of_laneFor? h
  obtain ⟨d, -, rfl⟩ := List.mem_map.1 hmem
  exact ⟨lists_hits, hhits⟩

/-- A dash answers soundly on every board. -/
theorem sound (s : Dash) (board : Board) (c : Cell) :
    (Survey.dash (.of s board)).Sound s.grid s.area.sparesActor c := by
  have htarget : (Survey.dash (.of s board)).isTargetable c =
      ((DashSurvey.of s board).laneFor? c).isSome :=
    DashSurvey.isSome_laneFor?.symm
  have hcells : (Survey.dash (.of s board)).areaCells c =
      (((DashSurvey.of s board).laneFor? c).map (·.hits)).getD [] := rfl
  refine ⟨?_, ?_, ?_⟩
  · rw [hcells]
    cases hlane : (DashSurvey.of s board).laneFor? c with
    | none => exact s.grid.lists_nil _
    | some lane => exact (lists_of_laneFor? hlane).1
  · rw [htarget, hcells]
    intro hnone
    rw [Option.isNone_iff_eq_none.1 (Option.isSome_eq_false_iff.1 hnone)]
    rfl
  · rw [htarget]
    intro hout
    cases hlane : (DashSurvey.of s board).laneFor? c with
    | none => rfl
    | some lane =>
      obtain ⟨hlists, hhits⟩ := lists_of_laneFor? hlane
      exact absurd hhits (hlists.not_mem hout)

end Dash

/-! ## Reading -/

/-- The scenario is played on the grid and spares the actor's cell as asked. -/
def Scenario.Built (grid : Grid) (sparesActor : Bool) : Scenario → Prop
  | selfCast s => s.grid = grid ∧ s.area.sparesActor = sparesActor
  | tile t => t.grid = grid ∧ t.area.sparesActor = sparesActor
  | directional s => s.grid = grid ∧ s.sparesActor = sparesActor ∧ s.Regular
  | dash s => s.grid = grid ∧ s.area.sparesActor = sparesActor

/-- Every scenario that was built for a grid answers soundly on every board. -/
theorem Scenario.Built.sound {s : Scenario} {grid : Grid} {sparesActor : Bool}
    (h : s.Built grid sparesActor) (board : Board) (c : Cell) :
    (s.survey board).Sound grid sparesActor c := by
  cases s with
  | selfCast s =>
    obtain ⟨rfl, rfl⟩ := h
    exact s.sound c
  | tile t =>
    obtain ⟨rfl, rfl⟩ := h
    exact t.sound board c
  | directional s =>
    obtain ⟨rfl, rfl, hregular⟩ := h
    exact Directional.sound hregular
  | dash s =>
    obtain ⟨rfl, rfl⟩ := h
    exact s.sound board c

open FieldReader

variable (given : Sliders) (rule : Rule)

/-- An area that is read spares the actor exactly when its field says so. -/
theorem AnchoredArea.yields_sparesActor (mode : Option AreaMode) (allowCrossLine : Bool) :
    Yields given rule (read mode allowCrossLine)
      (·.area.sparesActor = rule.flag "aoe_excludes_self") := by
  unfold read
  refine yields_rule.bind ?_
  rintro _ rfl
  refine (yields_number "min_aoe").bind fun min _ => ?_
  refine (yields_number "max_aoe").bind fun max _ => ?_
  exact Yields.pure rfl

/-- A self cast that is read stands on the grid it was read for. -/
theorem SelfCast.yields_built (grid : Grid) :
    Yields given rule (read grid)
      fun s => s.grid = grid ∧ s.area.sparesActor = rule.flag "aoe_excludes_self" := by
  unfold read
  refine (yields_keyword AreaMode.ofName? "aoe_mode").bind fun mode _ => ?_
  refine (AnchoredArea.yields_sparesActor given rule mode false).bind fun anchored harea => ?_
  exact Yields.pure ⟨rfl, harea⟩

/-- A tile scenario that is read stands on the grid it was read for. -/
theorem Tile.yields_built (grid : Grid) :
    Yields given rule (read grid)
      fun t => t.grid = grid ∧ t.area.sparesActor = rule.flag "aoe_excludes_self" := by
  unfold read
  refine (yields_number "min_range").bind fun min _ => ?_
  refine (yields_number "max_range").bind fun max _ => ?_
  refine (yields_keyword RangeMode.ofName? "range_mode").bind fun rangeMode _ => ?_
  refine yields_rule.bind fun rule' _ => ?_
  refine (yields_keyword AreaMode.ofName? "aoe_mode").bind fun mode _ => ?_
  refine (AnchoredArea.yields_sparesActor given rule mode true).bind fun anchored harea => ?_
  exact Yields.pure ⟨rfl, harea⟩

/-- A direction rule makes a dash or a directional scenario, each built for the grid and with the
field on the actor as it was read. -/
theorem Aiming.yields_built (mode : TargetMode) (grid : Grid) (dash : Bool) :
    Yields given rule
      (do
        let aiming ← read
        if dash && Dash.applies mode aiming then return .dash (.ofAiming aiming grid)
        else return .directional (.ofAiming aiming mode grid))
      (Scenario.Built grid (rule.flag "aoe_excludes_self")) := by
  refine (Aiming.yields_read given rule).bind fun aiming haiming => ?_
  split
  · exact Yields.pure ⟨rfl, haiming.sparesActor⟩
  · exact Yields.pure ⟨rfl, haiming.sparesActor, Directional.regular_ofAiming aiming mode grid⟩

/-- Whatever the target mode, the scenario that is read was built for the grid. -/
theorem Scenario.yields_built (mode : TargetMode) (grid : Grid) (dash : Bool) :
    Yields given rule (read mode grid dash) (Built grid (rule.flag "aoe_excludes_self")) := by
  cases mode with
  | none => exact (SelfCast.yields_built given rule grid).bind fun s hs => Yields.pure hs
  | tile => exact (Tile.yields_built given rule grid).bind fun t ht => Yields.pure ht
  | direction => exact Aiming.yields_built given rule .direction grid dash
  | direction8 => exact Aiming.yields_built given rule .direction8 grid dash

/-- A text that can be shown has a target mode, and the scenario is read with it. -/
theorem read_of_render {text : String} {grid : Grid} {sliders after : Sliders}
    {options : RenderOptions} {rendered : Rendered}
    (h : render text grid sliders options = (.ready rendered, after)) :
    (Rule.ofText text).targetMode = .ok rendered.mode ∧
      rendered.scenario = (Scenario.read rendered.mode grid options.dash (Rule.ofText text)
        ⟨sliders.forgetRequired, []⟩).1 := by
  by_cases hblank : Text.isBlankText text = true
  · unfold render at h
    rw [if_pos hblank] at h
    cases h
  · rw [render_of_not_blank hblank] at h
    have hready := congrArg Prod.fst h
    unfold Rule.render at hready
    split at hready
    · cases hready
    · next mode hmode =>
      cases hready
      exact ⟨hmode, rfl⟩

/-- What a text shows is built from its fields. -/
theorem built_of_render {text : String} {grid : Grid} {sliders after : Sliders}
    {options : RenderOptions} {rendered : Rendered}
    (h : render text grid sliders options = (.ready rendered, after)) :
    rendered.scenario.Built grid ((Rule.ofText text).flag "aoe_excludes_self") := by
  obtain ⟨-, hscenario⟩ := read_of_render h
  have hbuilt := Scenario.yields_built sliders.forgetRequired (Rule.ofText text) rendered.mode grid
    options.dash ⟨sliders.forgetRequired, []⟩ (Sliders.SameValues.refl _)
  rw [hscenario]
  exact hbuilt.1

end Reticle
