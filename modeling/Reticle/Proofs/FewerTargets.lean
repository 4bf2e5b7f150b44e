import Reticle.Proofs.DirectionalTile
import Reticle.Proofs.Previews
import Reticle.Proofs.Rendering
import Reticle.Proofs.Sightlines
import Reticle.Proofs.Targets

/-!
# Obstacles and restrictions only take targets away

Outside dashes a cell is a target when some candidate meets conditions on the board and covers it.
An obstacle more bars paths and footprints, and a restriction more is one condition more on an
origin; what covers a cell depends on neither. So a cell that is a target stays one when obstacles
or restrictions are taken away, also where it is one because the area of an origin reaches it. A
dash is different: an obstacle stops it, and it strikes from where it stands.
-/

namespace Reticle

/-! ## Obstacles -/

section Obstacles

variable {b b' : Board} (hgrid : b.grid = b'.grid) (hsub : ∀ c ∈ b.obstacles, c ∈ b'.obstacles)
  {c : Cell}

include hsub in
/-- A cell that is free among more obstacles is free among fewer. -/
theorem Board.isBlocked_eq_false_of_subset (h : b'.isBlocked c = false) :
    b.isBlocked c = false := by
  by_contra hblocked
  have hmem : c ∈ b.obstacles := isBlocked_iff.1 (Bool.eq_true_of_not_eq_false hblocked)
  rw [isBlocked_iff.2 (hsub c hmem)] at h
  exact Bool.noConfusion h

include hgrid hsub

namespace Tile

variable {t : Tile}

/-- A restriction that allows a cell among more obstacles allows it among fewer. -/
theorem allows_of_subset {restriction : Restriction} (h : t.allows b' c restriction = true) :
    t.allows b c restriction = true := by
  cases restriction with
  | mustMove => exact h
  | straightShot => exact Board.pathClear_of_subset hgrid hsub h
  | lineOfSight => exact Board.pathClear_of_subset hgrid hsub h
  | mustBeMoveable =>
    have hfree : (!b'.isBlocked c) = true := h
    show (!b.isBlocked c) = true
    rw [Bool.not_eq_true'] at hfree ⊢
    exact Board.isBlocked_eq_false_of_subset hsub hfree
  | fitTwoByTwo =>
    have hfits : t.footprintFits b' c = true := h
    show t.footprintFits b c = true
    unfold footprintFits at hfits ⊢
    rw [List.all_eq_true] at hfits ⊢
    intro part hpart
    have hfree := hfits part hpart
    rw [Bool.and_eq_true, Bool.not_eq_true'] at hfree ⊢
    exact ⟨hfree.1, Board.isBlocked_eq_false_of_subset hsub hfree.2⟩

/-- A legal origin among more obstacles is one among fewer. -/
theorem isOrigin_of_subset (h : t.isOrigin b' c = true) : t.isOrigin b c = true := by
  unfold isOrigin at h ⊢
  rw [Bool.and_eq_true, List.all_eq_true] at h ⊢
  exact ⟨h.1, fun restriction hmem => allows_of_subset hgrid hsub (h.2 restriction hmem)⟩

/-- A target of a tile rule among more obstacles is one among fewer. -/
theorem isTargetable_of_subset (h : (TileSurvey.of t b').isTargetable c = true) :
    (TileSurvey.of t b).isTargetable c = true := by
  rw [isTargetable_iff] at h ⊢
  rcases h with horigin | ⟨hincludes, origin, horigin, hcovers⟩
  · exact .inl (isOrigin_of_subset hgrid hsub horigin)
  · exact .inr ⟨hincludes, origin, isOrigin_of_subset hgrid hsub horigin, hcovers⟩

end Tile

/-- A target of a directional rule among more obstacles is one among fewer. -/
theorem Directional.isTargetable_of_subset {s : Directional}
    (h : (DirectionalSurvey.of s b').isTargetable c = true) :
    (DirectionalSurvey.of s b).isTargetable c = true := by
  rw [isTargetable_iff] at h ⊢
  obtain ⟨hc, lane, hlane, source, hsource, hclear, hcovers⟩ := h
  exact ⟨hc, lane, hlane, source, hsource, Board.pathClear_of_subset hgrid hsub hclear, hcovers⟩

/-- Outside dashes, a target stays one when obstacles are taken away. -/
theorem Scenario.isTargetable_of_subset {s : Scenario} (hdash : ∀ d, s ≠ .dash d)
    (h : s.isTargetable b' c = true) : s.isTargetable b c = true := by
  cases s with
  | selfCast s => exact h
  | tile t => exact Tile.isTargetable_of_subset hgrid hsub h
  | directional s => exact Directional.isTargetable_of_subset hgrid hsub h
  | dash d => exact absurd rfl (hdash d)

end Obstacles

/-! ## Restrictions -/

/-- Of two tile scenarios that differ in their restrictions and their description only, the less
restricted one has the targets of the other. -/
theorem Tile.isTargetable_of_restrictions {t t' : Tile} (hgrid : t'.grid = t.grid)
    (hrange : t'.range = t.range) (harea : t'.area = t.area)
    (hincludes : t'.includesArea = t.includesArea)
    (hmore : ∀ restriction ∈ t.restrictions, restriction ∈ t'.restrictions) {board : Board}
    {c : Cell} (h : (TileSurvey.of t' board).isTargetable c = true) :
    (TileSurvey.of t board).isTargetable c = true := by
  have hallows : ∀ e, t'.allows board e = t.allows board e := by
    intro e
    funext restriction
    cases restriction <;> simp only [allows, footprintFits, hgrid]
  have horigin : ∀ e, t'.isOrigin board e = true → t.isOrigin board e = true := by
    intro e he
    unfold isOrigin at he ⊢
    rw [hgrid, hrange, hallows, Bool.and_eq_true, List.all_eq_true] at he
    rw [Bool.and_eq_true, List.all_eq_true]
    exact ⟨he.1, fun restriction hmem => he.2 restriction (hmore restriction hmem)⟩
  have hcells : t'.areaFrom = t.areaFrom := by
    funext e
    unfold areaFrom
    rw [hgrid, harea]
  rw [isTargetable_iff] at h ⊢
  rw [hincludes, hcells] at h
  rcases h with hc | ⟨hshown, e, he, hcovers⟩
  · exact .inl (horigin c hc)
  · exact .inr ⟨hshown, e, horigin e he, hcovers⟩

namespace Rule

/-- One rule has the restrictions of another and perhaps more; it says the same otherwise. -/
structure AddsRestrictions (r r' : Rule) : Prop where
  others : ∀ key, key ∉ restrictionKeys → r'.field? key = r.field? key
  more : ∀ restriction ∈ r.restrictions, restriction ∈ r'.restrictions

/-- The cells in range that the fields of a tile rule stand for. -/
def tileRangeIn (rule : Rule) (given : Sliders) (grid : Grid) : TileRange :=
  let min := (rule.numberIn given "min_range").getD 0
  let max := (rule.numberIn given "max_range").getD (Tile.defaultMaxRange min)
  let mode := (rule.keywordIn RangeMode.ofName? "range_mode").getD .standard
  .ofMode mode ⟨min, max⟩
    (if mode = .custom then Offset.place grid grid.center rule.rangeOffsets else [])

/-- The area that the fields of a rule stand for when it lies around the chosen cell. -/
def anchoredAreaIn (rule : Rule) (given : Sliders) (mode : Option AreaMode)
    (allowCrossLine : Bool) : Area :=
  let offsets := if mode = some .custom then rule.areaOffsets else []
  let shape :=
    if !offsets.isEmpty then .custom offsets (!rule.flag "dont_orient_aoe")
    else if mode = some .all then .everywhere
    else .ofMode (mode.filter fun m => allowCrossLine || m != .perpendicular)
      (rule.areaBoundsIn given)
  ⟨shape, rule.flag "aoe_excludes_self"⟩

/-- The area around the chosen cell that the fields of a tile rule stand for. -/
def tileAreaIn (rule : Rule) (given : Sliders) : Area :=
  rule.anchoredAreaIn given (rule.keywordIn AreaMode.ofName? "aoe_mode") true

end Rule

open FieldReader in
/-- The area that is read does not depend on the restrictions. -/
theorem AnchoredArea.yields_area (given : Sliders) (rule : Rule) (mode : Option AreaMode)
    (allowCrossLine : Bool) : Yields given rule (read mode allowCrossLine)
      (·.area = rule.anchoredAreaIn given mode allowCrossLine) := by
  unfold read
  apply yields_rule.bind
  rintro _ rfl
  apply (yields_number "min_aoe").bind
  rintro _ rfl
  apply (yields_number "max_aoe").bind
  rintro _ rfl
  exact Yields.pure rfl

/-- What the fields of a tile rule stand for, apart from the description. -/
structure Tile.StandsFor (rule : Rule) (given : Sliders) (grid : Grid) (t : Tile) : Prop where
  grid_eq : t.grid = grid
  range_eq : t.range = rule.tileRangeIn given grid
  restrictions_eq : t.restrictions = rule.restrictions
  area_eq : t.area = rule.tileAreaIn given
  includesArea_eq : t.includesArea =
    (rule.flag "range_display_include_aoe" && (rule.tileAreaIn given).shape.isCustom)

open FieldReader in
/-- The tile scenario that is read is made of the fields that stand for it. -/
theorem Tile.yields_standsFor (given : Sliders) (rule : Rule) (grid : Grid) :
    Yields given rule (read grid) (StandsFor rule given grid) := by
  unfold read
  apply (yields_number "min_range").bind
  rintro _ rfl
  apply (yields_number "max_range").bind
  rintro _ rfl
  apply (yields_keyword RangeMode.ofName? "range_mode").bind
  rintro _ rfl
  apply yields_rule.bind
  rintro rule rfl
  apply (yields_keyword AreaMode.ofName? "aoe_mode").bind
  rintro _ rfl
  apply (AnchoredArea.yields_area given rule _ true).bind
  intro anchored harea
  refine Yields.pure ⟨rfl, rfl, rfl, harea, ?_⟩
  dsimp only
  rw [harea]
  rfl

/-- A tile rule can be shown, and shows what its fields stand for. -/
theorem Rule.exists_render_tile {rule : Rule} (htile : rule.targetMode = .ok .tile) (grid : Grid)
    (given : Sliders) (options : RenderOptions) :
    ∃ rendered tile, (rule.render grid given options).1 = .ok rendered ∧
      rendered.scenario = .tile tile ∧ Tile.StandsFor rule given grid tile := by
  obtain ⟨rendered, hrendered, hscenario⟩ := render_of_mode htile grid given options
  obtain ⟨ht, -⟩ :=
    Tile.yields_standsFor given rule grid ⟨given, []⟩ (Sliders.SameValues.refl given)
  exact ⟨rendered, _, hrendered, hscenario, ht⟩

namespace Rule.AddsRestrictions

variable {r r' : Rule} (h : r.AddsRestrictions r')
include h

/-- The two rules have the same field under every key but those of the restrictions. -/
theorem sameField {key : String} (hkey : key ∉ restrictionKeys) : r'.SameField r key :=
  .of_field?_eq (h.others key hkey)

/-- The two rules have the same flags but those of the restrictions. -/
theorem flag_eq {key : String} (hkey : key ∉ restrictionKeys) : r'.flag key = r.flag key :=
  (h.sameField hkey).flag_eq

/-- The two rules have the same range. -/
theorem tileRangeIn_eq (given : Sliders) (grid : Grid) :
    r'.tileRangeIn given grid = r.tileRangeIn given grid := by
  unfold tileRangeIn
  rw [(h.sameField (by decide)).numberIn_eq, (h.sameField (by decide)).numberIn_eq,
    (h.sameField (by decide)).keywordIn_eq,
    rangeOffsets_eq (h.sameField (by decide)) (h.sameField (by decide))]

/-- The two rules have the same area. -/
theorem tileAreaIn_eq (given : Sliders) : r'.tileAreaIn given = r.tileAreaIn given := by
  unfold tileAreaIn anchoredAreaIn areaBoundsIn areaOffsets
  rw [(h.sameField (by decide)).keywordIn_eq, (h.sameField (by decide)).offsets_eq,
    (h.sameField (by decide)).scalar?_eq, h.flag_eq (by decide), h.flag_eq (by decide),
    (h.sameField (by decide)).numberIn_eq, (h.sameField (by decide)).numberIn_eq]

/-- The more restricted rule has the same target mode. -/
theorem targetMode_eq {mode : TargetMode} (hmode : r.targetMode = .ok mode) :
    r'.targetMode = .ok mode :=
  SameField.targetMode_eq (.of_field?_eq (h.others _ (by decide)).symm) hmode

end Rule.AddsRestrictions

/-- Outside dashes, obstacles and restrictions only take targets away. A cell that is a target of
any other scenario on a board is one on a board of the same grid with some of its obstacles. A tile
rule that gets more restrictions and says the same otherwise can still be shown, and has no target
that it did not have before; this includes the cells that are targets because an area reaches
them. -/
theorem isTargetable_of_fewer_conditions :
    (∀ (s : Scenario) (b b' : Board), (∀ d, s ≠ .dash d) → b.grid = b'.grid →
      (∀ c ∈ b.obstacles, c ∈ b'.obstacles) →
        ∀ c, s.isTargetable b' c = true → s.isTargetable b c = true) ∧
    ∀ (r r' : Rule) (grid : Grid) (sliders : Sliders) (options : RenderOptions),
      r.targetMode = .ok .tile → r.AddsRestrictions r' → ∃ rendered rendered',
        (r.render grid sliders options).1 = .ok rendered ∧
        (r'.render grid sliders options).1 = .ok rendered' ∧
        ∀ board c, rendered'.scenario.isTargetable board c = true →
          rendered.scenario.isTargetable board c = true := by
  constructor
  · intro s b b' hdash hgrid hsub c htarget
    exact Scenario.isTargetable_of_subset hgrid hsub hdash htarget
  · intro r r' grid sliders options hmode hadds
    obtain ⟨rendered, hrendered, hscenario⟩ := Rule.render_of_mode hmode grid sliders options
    obtain ⟨rendered', hrendered', hscenario'⟩ :=
      Rule.render_of_mode (hadds.targetMode_eq hmode) grid sliders options
    refine ⟨rendered, rendered', hrendered, hrendered', fun board c htarget => ?_⟩
    -- Both rules are read from the same sliders, and all but the restrictions comes out the same.
    have hsame := Sliders.SameValues.refl sliders
    obtain ⟨ht, -⟩ := Tile.yields_standsFor sliders r grid ⟨sliders, []⟩ hsame
    obtain ⟨ht', -⟩ := Tile.yields_standsFor sliders r' grid ⟨sliders, []⟩ hsame
    have hscenario : rendered.scenario = .tile (Tile.read grid r ⟨sliders, []⟩).1 := hscenario
    have hscenario' : rendered'.scenario = .tile (Tile.read grid r' ⟨sliders, []⟩).1 := hscenario'
    rw [hscenario'] at htarget
    rw [hscenario]
    refine Tile.isTargetable_of_restrictions ?_ ?_ ?_ ?_ ?_ htarget
    · rw [ht.grid_eq, ht'.grid_eq]
    · rw [ht.range_eq, ht'.range_eq, hadds.tileRangeIn_eq]
    · rw [ht.area_eq, ht'.area_eq, hadds.tileAreaIn_eq]
    · rw [ht.includesArea_eq, ht'.includesArea_eq, hadds.tileAreaIn_eq, hadds.flag_eq (by decide)]
    · rw [ht.restrictions_eq, ht'.restrictions_eq]
      exact hadds.more

/-- A tile rule that shows what its area reaches. -/
def Rule.exampleReaching : Rule :=
  ⟨[], [⟨"target_mode", 0, "tile"⟩, ⟨"max_range", 1, "1"⟩, ⟨"aoe_mode", 2, "custom"⟩,
    ⟨"custom_aoe", 3, "[[0,0][0,2]]"⟩, ⟨"range_display_include_aoe", 4, "true"⟩], none⟩

/-- The same rule with a footprint and a clear path asked for. -/
def Rule.exampleRestricted : Rule :=
  ⟨[], exampleReaching.fields ++ [⟨"restrictions", 5, "[must_fit_2x2_character]"⟩,
    ⟨"straight_shot", 6, "true"⟩], none⟩

/-- Restrictions give the example rule no target, and an obstacle gives a splash none. -/
theorem isTargetable_of_fewer_conditions_example :
    (∃ rendered rendered',
      (Rule.exampleReaching.render (.ofSide 7) .empty .standard).1 = .ok rendered ∧
      (Rule.exampleRestricted.render (.ofSide 7) .empty .standard).1 = .ok rendered' ∧
      ∀ board c, rendered'.scenario.isTargetable board c = true →
        rendered.scenario.isTargetable board c = true) ∧
    ∀ c, let s : Scenario := .directional (.ofAiming .smallSplash .direction (.ofSide 7))
      s.isTargetable ⟨.ofSide 7, CellSet.empty.insert ⟨3, 4⟩⟩ c = true →
        s.isTargetable (.empty (.ofSide 7)) c = true := by
  obtain ⟨hobstacles, hrestrictions⟩ := isTargetable_of_fewer_conditions
  constructor
  · refine hrestrictions _ _ (.ofSide 7) .empty .standard (by decide +kernel)
      ⟨?_, by decide +kernel⟩
    intro key hkey
    simp only [Rule.restrictionKeys, List.mem_cons, List.not_mem_nil, or_false, not_or] at hkey
    have hrestrictions : ("restrictions" == key) = false := beq_eq_false_iff_ne.2 (Ne.symm hkey.1)
    have hshot : ("straight_shot" == key) = false := beq_eq_false_iff_ne.2 (Ne.symm hkey.2.1)
    unfold Rule.field? Rule.exampleRestricted
    simp [List.findRev?_eq_find?_reverse, hrestrictions, hshot]
  · intro c s
    refine hobstacles s (.empty (.ofSide 7)) ⟨.ofSide 7, CellSet.empty.insert ⟨3, 4⟩⟩ ?_ rfl ?_ c
    · exact fun d => Scenario.noConfusion
    · exact fun e he => absurd he List.not_mem_nil

end Reticle
