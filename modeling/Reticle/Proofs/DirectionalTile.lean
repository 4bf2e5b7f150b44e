import Reticle.Proofs.FieldSpecs
import Reticle.Proofs.Lanes

/-!
# Directions and crosses

A directional rule selects cells along lanes, and a tile rule with a cross range selects cells by a
test. With a clear path asked for and an area around the selected cell, both come to the same:
every cell on a lane lies on one lane only, that of the direction it lies in, and areas face the
direction of the lane there and the direction away from the actor here.
-/

namespace Reticle

/-! ## Two scenarios on a board -/

/-- A directional scenario and a tile scenario that are read from the same values: areas around the
selected cell, and lanes along the lines of the range. -/
structure Directional.Matches (s : Directional) (t : Tile) (directions : List Direction)
    (b : Bounds) : Prop where
  hasStep : b.HasStep
  grid : s.grid = t.grid
  lanes : s.lanes = directions.map (laneOf t.grid b s.area s.sparesActor)
  area : s.area = .placed t.area
  range : t.range = .lines directions b
  sight : Restriction.lineOfSight ∈ t.restrictions
  others : ∀ restriction ∈ t.restrictions,
    restriction ∈ [Restriction.lineOfSight, .straightShot, .mustMove]
  origins : t.includesArea = false

namespace Directional.Matches

variable {s : Directional} {t : Tile} {directions : List Direction} {b : Bounds}
  (h : s.Matches t directions b)
include h

/-- The tile rule allows the cells on lines to which the path is clear. -/
theorem isOrigin_iff (board : Board) (c : Cell) :
    t.isOrigin board c = true ↔
      (∃ d ∈ directions, c ∈ t.grid.line t.grid.center d b) ∧ board.pathClear c = true := by
  have hlines := @Grid.contains_lines_iff t.grid directions b h.hasStep c
  unfold Tile.isOrigin
  rw [h.range, Bool.and_eq_true, Bool.and_eq_true, hlines, List.all_eq_true]
  refine and_congr_right ?_
  rintro ⟨d, -, hd⟩
  constructor
  · exact fun hall => hall _ h.sight
  · intro hclear restriction hmem
    have hne : c ≠ t.grid.center := by
      rintro rfl
      have hto := Grid.directionTo_of_mem_line h.hasStep hd
      rw [Cell.directionTo_self] at hto
      exact absurd hto (by simp)
    cases restriction with
    | lineOfSight => exact hclear
    | straightShot => exact hclear
    | mustMove => exact bne_iff_ne.2 hne
    | fitTwoByTwo => exact absurd (h.others _ hmem) (by simp)
    | mustBeMoveable => exact absurd (h.others _ hmem) (by simp)

/-- Which lanes a survey has. -/
theorem mem_lanes_iff {board : Board} {lane : OpenLane} :
    lane ∈ (DirectionalSurvey.of s board).lanes ↔
      ∃ d ∈ directions, lane = ⟨laneOf t.grid b s.area s.sparesActor d,
        (t.grid.line t.grid.center d b).filter board.pathClear⟩ := by
  unfold DirectionalSurvey.of
  rw [h.lanes, List.map_map, List.mem_map]
  apply exists_congr
  intro d
  apply and_congr_right
  intro _
  exact eq_comm

/-- A lane with a cell to select is the lane of the direction in which the cell lies. -/
theorem of_mem_lane {board : Board} {c : Cell} {lane : OpenLane}
    (hlane : lane ∈ (DirectionalSurvey.of s board).lanes) (hc : lane.clear.contains c = true) :
    t.isOrigin board c = true ∧ t.grid.center.directionTo c = some lane.lane.direction := by
  obtain ⟨d, hd, rfl⟩ := h.mem_lanes_iff.1 hlane
  obtain ⟨hline, hclear⟩ := List.mem_filter.1 (List.contains_iff_mem.1 hc)
  exact ⟨(h.isOrigin_iff board c).2 ⟨⟨d, hd, hline⟩, hclear⟩,
    Grid.directionTo_of_mem_line h.hasStep hline⟩

/-- A legal origin of the tile rule lies on a clear lane of the directional rule. -/
theorem exists_mem_lane {board : Board} {c : Cell} (hc : t.isOrigin board c = true) :
    ∃ lane ∈ (DirectionalSurvey.of s board).lanes, lane.clear.contains c = true := by
  obtain ⟨⟨d, hd, hline⟩, hclear⟩ := (h.isOrigin_iff board c).1 hc
  refine ⟨_, h.mem_lanes_iff.2 ⟨d, hd, rfl⟩, ?_⟩
  exact List.contains_iff_mem.2 (List.mem_filter.2 ⟨hline, hclear⟩)

/-- On the grid, a cell is reached by being selected on the first lane that has it. -/
theorem hit?_eq {board : Board} {c : Cell} (hc : t.grid.contains c = true) :
    (DirectionalSurvey.of s board).hit? c =
      ((DirectionalSurvey.of s board).lanes.find? (·.clear.contains c)).map
        fun lane => .selected lane.lane := by
  have hgrid : (DirectionalSurvey.of s board).scenario.grid.contains c = true := h.grid ▸ hc
  have harea : (DirectionalSurvey.of s board).scenario.area = .placed t.area := h.area
  unfold DirectionalSurvey.hit?
  rw [hgrid, harea]
  rfl

/-- A cell that the tile rule allows is selected, on the lane of the direction it lies in. -/
theorem hit?_of_isOrigin {board : Board} {c : Cell} (hc : t.isOrigin board c = true) :
    ∃ lane : Lane, (DirectionalSurvey.of s board).hit? c = some (.selected lane) ∧
      t.grid.center.directionTo c = some lane.direction := by
  have hgrid : t.grid.contains c = true := by
    unfold Tile.isOrigin at hc
    exact (Bool.and_eq_true_iff.1 (Bool.and_eq_true_iff.1 hc).1).1
  have hfound : ((DirectionalSurvey.of s board).lanes.find? (·.clear.contains c)).isSome := by
    rw [List.find?_isSome]
    exact h.exists_mem_lane hc
  obtain ⟨lane, hlane⟩ := Option.isSome_iff_exists.1 hfound
  have hcontains := List.find?_some hlane
  refine ⟨lane.lane, ?_, (h.of_mem_lane (List.mem_of_find?_eq_some hlane) hcontains).2⟩
  rw [h.hit?_eq hgrid, hlane]
  rfl

/-- No other cell is reached. -/
theorem hit?_of_not_isOrigin {board : Board} {c : Cell} (hc : t.isOrigin board c = false) :
    (DirectionalSurvey.of s board).hit? c = none := by
  by_cases hgrid : t.grid.contains c = true
  · rw [h.hit?_eq hgrid, Option.map_eq_none_iff, List.find?_eq_none]
    intro lane hlane hcontains
    rw [(h.of_mem_lane hlane hcontains).1] at hc
    exact Bool.noConfusion hc
  · have hout : (DirectionalSurvey.of s board).scenario.grid.contains c = false :=
      h.grid ▸ Bool.eq_false_iff.2 hgrid
    unfold DirectionalSurvey.hit?
    rw [hout]
    rfl

/-- Both scenarios give the same answers on every board. -/
theorem answers_eq (board : Board) (c : Cell) :
    (DirectionalSurvey.of s board).isTargetable c = (TileSurvey.of t board).isTargetable c ∧
      (DirectionalSurvey.of s board).areaCells c = (TileSurvey.of t board).areaCells c := by
  have hnearest : (TileSurvey.of t board).nearest? c = none := by
    unfold TileSurvey.of
    rw [h.origins]
    rfl
  have harea : (DirectionalSurvey.of s board).scenario.area = .placed t.area := h.area
  have hgrid : (DirectionalSurvey.of s board).scenario.grid = t.grid := h.grid
  unfold DirectionalSurvey.isTargetable DirectionalSurvey.areaCells TileSurvey.isTargetable
    TileSurvey.areaCells
  rw [hnearest, harea, hgrid]
  have htile : (TileSurvey.of t board).tile.isOrigin (TileSurvey.of t board).board c =
    t.isOrigin board c := rfl
  rw [htile]
  -- A cell is on a clear lane exactly if it is a legal origin, and then both face away from the
  -- actor.
  cases hc : t.isOrigin board c with
  | false =>
    rw [h.hit?_of_not_isOrigin hc]
    exact ⟨rfl, rfl⟩
  | true =>
    obtain ⟨lane, hhit, hto⟩ := h.hit?_of_isOrigin hc
    rw [hhit]
    refine ⟨rfl, ?_⟩
    show t.area.cells t.grid c (some lane.direction) = t.areaFrom c
    unfold Tile.areaFrom
    rw [hto]

end Directional.Matches

/-! ## Two rules -/

/-- The modes of areas that lie around the selected cell. -/
def AreaMode.placed : List AreaMode :=
  [standard, cross, diagonalCross, eightCross, perpendicular]

/-- The range mode whose lines are the directions that can be selected. -/
def TargetMode.crossMode? : TargetMode → Option RangeMode
  | direction => some .cross
  | direction8 => some .eightCross
  | none | tile => Option.none

/-- The fields that a directional rule and a tile rule share. -/
def Rule.sharedKeys : List String :=
  ["min_range", "max_range", "aoe_mode", "min_aoe", "max_aoe", "aoe_excludes_self"]

/-- A directional rule and the tile rule that selects the same cells: its range is a cross along
the directions, it asks for the line of sight, and it has the same range and area. -/
structure Rule.Counterparts (given : Sliders) (r t : Rule) : Prop where
  modes : ∃ mode range, r.targetMode = .ok mode ∧ mode.crossMode? = some range ∧
    t.keyword? "range_mode" = some range.name
  tile : t.targetMode = .ok .tile
  sight : (t.words "restrictions").filterMap Restriction.ofToken? = [.lineOfSight]
  shared : ∀ key ∈ sharedKeys, t.scalar? key = r.scalar? key
  area : ∃ mode ∈ AreaMode.placed, r.keyword? "aoe_mode" = some mode.name
  unsplashed : ∀ radius, r.firstNumberIn given splashKeys = some radius →
    Number.isPositive radius = false
  range : ∃ min max, r.numberIn given "min_range" = some min ∧
    r.numberIn given "max_range" = some max ∧ Bounds.HasStep ⟨min, max⟩

/-- An area of such a mode is neither listed nor the whole grid. -/
theorem AreaMode.ne_of_placed {mode : AreaMode} (h : mode ∈ placed) :
    mode ≠ custom ∧ mode ≠ all := by
  constructor
  · rintro rfl
    simp [placed] at h
  · rintro rfl
    simp [placed] at h

/-- The range of the tile rule runs along the directions of the directional mode. -/
theorem TargetMode.directions_of_crossMode {mode : TargetMode} {range : RangeMode}
    (h : mode.crossMode? = some range) : range.lineDirections? = some mode.directions := by
  cases mode with
  | none => exact absurd h (by simp [crossMode?])
  | tile => exact absurd h (by simp [crossMode?])
  | direction =>
    obtain rfl := Option.some.inj h
    rfl
  | direction8 =>
    obtain rfl := Option.some.inj h
    rfl

/-- No area mode means a custom shape. -/
theorem Shape.isCustom_ofMode (mode : Option AreaMode) (b : Bounds) :
    (ofMode mode b).isCustom = false := by
  unfold ofMode
  split
  · rfl
  · split
    · rfl
    · split <;> rfl
    · rfl

/-- Raising a number to zero does not make it positive. -/
theorem Number.isPositive_nonNegative {x : Float} (h : isPositive x = false) :
    isPositive (nonNegative x) = false := by
  unfold nonNegative larger
  split
  · decide +kernel
  · exact h

/-- A keyword that is written and known is the one that is read. -/
theorem Rule.keywordIn_of_name {α : Type} {rule : Rule} {ofName? : String → Option α}
    {key name : String} {value : α} (h : rule.keyword? key = some name)
    (hname : name.isEmpty = false) (hvalue : ofName? name = some value) :
    rule.keywordIn ofName? key = some value := by
  unfold keywordIn
  rw [h, Option.filter_some, hname]
  exact hvalue

/-- If line of sight is the only restriction that is written, only the two that every rule may add
stand beside it. -/
theorem Rule.restrictions_of_sight {t : Rule}
    (h : (t.words "restrictions").filterMap Restriction.ofToken? = [.lineOfSight]) :
    Restriction.lineOfSight ∈ t.restrictions ∧ ∀ restriction ∈ t.restrictions,
      restriction ∈ [Restriction.lineOfSight, .straightShot, .mustMove] := by
  unfold restrictions
  rw [h]
  cases t.flag "straight_shot" <;> cases t.flag "must_move" <;>
    cases t.flag "requires_line_of_sight" <;> simp

/-! ## What the two rules are read as -/

namespace Rule.Counterparts

variable {given : Sliders} {r t : Rule} (h : Rule.Counterparts given r t)
include h

/-- The two rules treat the actor alike. -/
theorem flag_eq : t.flag "aoe_excludes_self" = r.flag "aoe_excludes_self" := by
  unfold Rule.flag
  rw [h.shared _ (by simp [sharedKeys])]

/-- The two rules have the same numbers for the shared keys. -/
theorem numberIn_eq {key : String} (hkey : key ∈ sharedKeys) :
    t.numberIn given key = r.numberIn given key := by
  unfold Rule.numberIn
  rw [h.shared key hkey]

/-- The two rules have the same bounds for their areas. -/
theorem areaBoundsIn_eq : t.areaBoundsIn given = r.areaBoundsIn given := by
  unfold Rule.areaBoundsIn
  rw [h.numberIn_eq (by simp [sharedKeys]), h.numberIn_eq (by simp [sharedKeys])]

/-- The two rules name the same area mode, one that is placed on a cell. -/
theorem exists_areaMode : ∃ mode ∈ AreaMode.placed,
    r.keywordIn AreaMode.ofName? "aoe_mode" = some mode ∧
      t.keywordIn AreaMode.ofName? "aoe_mode" = some mode := by
  obtain ⟨mode, hplaced, hword⟩ := h.area
  have hname : mode.name.isEmpty = false := by
    cases mode <;> decide
  have hvalue : AreaMode.ofName? mode.name = some mode := by
    cases mode <;> decide
  have hword' : t.keyword? "aoe_mode" = some mode.name := by
    rw [← hword]
    unfold Rule.keyword?
    rw [h.shared _ (by simp [sharedKeys])]
  exact ⟨mode, hplaced, keywordIn_of_name hword hname hvalue,
    keywordIn_of_name hword' hname hvalue⟩

/-- The directional rule has no splash. -/
theorem isPositive_splash :
    Number.isPositive (Number.nonNegative ((r.firstNumberIn given splashKeys).getD 0)) = false := by
  refine Number.isPositive_nonNegative ?_
  cases hradius : r.firstNumberIn given splashKeys with
  | none => decide +kernel
  | some radius => exact h.unsplashed radius hradius

end Rule.Counterparts

/-- Without a splash, areas of these modes lie around the selected cell. -/
theorem Aiming.areaOf_of_placed {a : Aiming} (hsplash : Number.isPositive a.splash = false)
    (hmode : a.mode ∈ AreaMode.placed) :
    Directional.areaOf a = .placed ⟨.ofMode (some a.mode) (a.areaBounds 0 0), a.sparesActor⟩ := by
  have heffective : a.effectiveMode = a.mode := by
    unfold effectiveMode
    refine if_neg ?_
    rintro ⟨hcustom, -⟩
    exact (AreaMode.ne_of_placed hmode).1 hcustom
  unfold Directional.areaOf placedShape
  rw [hsplash, heffective]
  revert hmode
  cases a.mode <;> simp [AreaMode.placed]

/-- A whole number within the bounds that are asked for leaves them as they are. -/
theorem Bounds.HasStep.selection_eq {b : Bounds} (h : b.HasStep) :
    let requested := Bounds.resolve (some b.min) (some b.max) 1 1
    let least := Number.larger requested.min 1
    Bounds.mk least (Number.larger requested.max least) = b := by
  unfold Bounds.resolve
  simp only [Option.getD_some, h.larger_min_one, h.larger_max_min]

/-- A rule with an area around the selected cell selects the range that is asked for. -/
theorem Aiming.ReadFrom.selectionOf_eq {given : Sliders} {r : Rule} {a : Aiming}
    (ha : ReadFrom given r a) {area : Area} (harea : Directional.areaOf a = .placed area)
    {b : Bounds} (hb : b.HasStep) (hmin : r.numberIn given "min_range" = some b.min)
    (hmax : r.numberIn given "max_range" = some b.max) : Directional.selectionOf a = b := by
  unfold Directional.selectionOf
  rw [harea, ha.selection]
  unfold Rule.requestedIn
  rw [hmin, hmax]
  exact hb.selection_eq

/-- The scenarios that two such rules are read as match. -/
theorem Rule.Counterparts.matches {given : Sliders} {r t : Rule}
    (h : Rule.Counterparts given r t) {grid : Grid} {mode : TargetMode} {areaMode : AreaMode}
    {b : Bounds} (hb : b.HasStep)
    (hmin : r.numberIn given "min_range" = some b.min)
    (hmax : r.numberIn given "max_range" = some b.max)
    (hplaced : areaMode ∈ AreaMode.placed)
    (hareaMode : r.keywordIn AreaMode.ofName? "aoe_mode" = some areaMode)
    {a : Aiming} (ha : Aiming.ReadFrom given r a)
    {tile : Tile} (ht : Tile.ReadFrom given t grid (.lines mode.directions b) areaMode tile) :
    (Directional.ofAiming a mode grid).Matches tile mode.directions b := by
  have hmode : a.mode = areaMode := by
    rw [ha.mode, hareaMode, Option.getD_some]
  have harea : Directional.areaOf a = .placed tile.area := by
    rw [Aiming.areaOf_of_placed (ha.splash ▸ h.isPositive_splash) (hmode ▸ hplaced), hmode,
      ha.areaBounds, ha.sparesActor, ht.area, h.areaBoundsIn_eq, h.flag_eq]
  have hselection := ha.selectionOf_eq harea hb hmin hmax
  have hcustom : tile.area.shape.isCustom = false := by
    rw [ht.area]
    exact Shape.isCustom_ofMode _ _
  obtain ⟨hsight, hothers⟩ := Rule.restrictions_of_sight h.sight
  refine ⟨hb, ht.grid.symm, ?_, harea, ht.range, ?_, ?_, ?_⟩
  · unfold Directional.ofAiming
    rw [hselection, ht.grid]
  · rw [ht.restrictions]
    exact hsight
  · rw [ht.restrictions]
    exact hothers
  · rw [ht.includesArea, hcustom, Bool.and_false]

/-- Building what a rule shows succeeds when its mode is known, and shows the scenario that is
read. -/
theorem Rule.render_of_mode {rule : Rule} {mode : TargetMode} (h : rule.targetMode = .ok mode)
    (grid : Grid) (s : Sliders) (options : RenderOptions) :
    ∃ rendered, (rule.render grid s options).1 = .ok rendered ∧
      rendered.scenario = (Scenario.read mode grid options.dash rule ⟨s, []⟩).1 := by
  unfold Rule.render
  rw [h]
  exact ⟨_, rfl, rfl⟩

/-- Two such rules are read as scenarios that match, from whatever sliders have the given values. -/
theorem Rule.Counterparts.exists_matches {given : Sliders} {r t : Rule}
    (h : Rule.Counterparts given r t) (grid : Grid) {s s' : Sliders} (hs : s.SameValues given)
    (hs' : s'.SameValues given) :
    ∃ (mode : TargetMode) (b : Bounds), r.targetMode = .ok mode ∧
      (mode = .direction ∨ mode = .direction8) ∧
      r.numberIn given "min_range" = some b.min ∧ r.numberIn given "max_range" = some b.max ∧
      Directional.selectionOf (Aiming.read r ⟨s, []⟩).1 = b ∧
      (Directional.ofAiming (Aiming.read r ⟨s, []⟩).1 mode grid).Matches
        (Tile.read grid t ⟨s', []⟩).1 mode.directions b := by
  obtain ⟨mode, range, hmode, hcross, hrange⟩ := h.modes
  obtain ⟨min, max, hmin, hmax, hb⟩ := h.range
  obtain ⟨areaMode, hplaced, hareaMode, hareaMode'⟩ := h.exists_areaMode
  have hdirection : mode = .direction ∨ mode = .direction8 := by
    cases mode <;> simp [TargetMode.crossMode?] at hcross ⊢
  obtain ⟨ha, -⟩ := Aiming.yields_read given r ⟨s, []⟩ hs
  have hrangeMode : t.keywordIn RangeMode.ofName? "range_mode" = some range :=
    Rule.keywordIn_of_name hrange (by cases range <;> decide) (by cases range <;> decide)
  have hmin' := (h.numberIn_eq (by simp [sharedKeys])).trans hmin
  have hmax' := (h.numberIn_eq (by simp [sharedKeys])).trans hmax
  have htile := Tile.yields_read grid hareaMode' (AreaMode.ne_of_placed hplaced).1
    (AreaMode.ne_of_placed hplaced).2 hrangeMode (TargetMode.directions_of_crossMode hcross)
    hmin' hmax'
  obtain ⟨hread, -⟩ := htile ⟨s', []⟩ hs'
  have hmatches := h.matches hb hmin hmax hplaced hareaMode ha hread
  exact ⟨mode, ⟨min, max⟩, hmode, hdirection, hmin, hmax,
    ha.selectionOf_eq hmatches.area hb hmin hmax, hmatches⟩

end Reticle
