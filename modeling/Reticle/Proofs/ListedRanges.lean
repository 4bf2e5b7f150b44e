import Reticle.Proofs.FewerTargets

/-!
# Listed ranges

The range mode `custom` lists the cells in range by their offsets from the actor. As long as one of
them lies on the grid, the listed cells are the range and the bounds do not count: a rule that
differs in its bounds only has the same origins. If no listed cell lies on the grid, whether the
rule lists none or all of them are too far away, the range is the band of city-block distance that
the mode `standard` has.
-/

namespace Reticle

/-! ## Origins -/

namespace Tile

/-- What an origin is depends on the grid, the range and the restrictions only. -/
theorem isOrigin_congr {t t' : Tile} (hgrid : t'.grid = t.grid) (hrange : t'.range = t.range)
    (hrestrictions : t'.restrictions = t.restrictions) : t'.isOrigin = t.isOrigin := by
  obtain ⟨_, _, _, _, _, _⟩ := t
  obtain ⟨_, _, _, _, _, _⟩ := t'
  obtain rfl := hgrid
  obtain rfl := hrange
  obtain rfl := hrestrictions
  rfl

/-- The origins of a listed range are its cells that meet the restrictions. -/
theorem isOrigin_iff_of_listed {t : Tile} {cells : List Cell} (hrange : t.range = .custom cells)
    (hgrid : ∀ c ∈ cells, t.grid.contains c = true) {board : Board} {c : Cell} :
    t.isOrigin board c = true ↔ c ∈ cells ∧ t.restrictions.all (t.allows board c) = true := by
  have hcontains : (TileRange.custom cells).contains t.grid.center c = true ↔ c ∈ cells :=
    List.contains_iff_mem
  unfold isOrigin
  rw [hrange, Bool.and_eq_true, Bool.and_eq_true, hcontains,
    and_iff_right_of_imp (hgrid c)]

/-- The origins of a band are the cells of the grid within it that meet the restrictions. -/
theorem isOrigin_iff_of_standard {t : Tile} {b : Bounds} (hrange : t.range = .standard b)
    {board : Board} {c : Cell} :
    t.isOrigin board c = true ↔ t.grid.contains c = true ∧
      TileRange.within (c.manhattan t.grid.center) b = true ∧
        t.restrictions.all (t.allows board c) = true := by
  unfold isOrigin
  rw [hrange, Bool.and_eq_true, Bool.and_eq_true, and_assoc]
  rfl

end Tile

/-! ## Rules that differ in their bounds -/

namespace Rule

/-- The keys of the bounds of the range. -/
def bandKeys : List String :=
  ["min_range", "max_range"]

/-- Two rules that say the same except about the bounds of the range. -/
def SameButBand (r r' : Rule) : Prop :=
  ∀ key, key ∉ bandKeys → r.SameField r' key

/-- The bounds of the range of a tile rule. -/
def bandIn (rule : Rule) (given : Sliders) : Bounds :=
  let min := (rule.numberIn given "min_range").getD 0
  ⟨min, (rule.numberIn given "max_range").getD (Tile.defaultMaxRange min)⟩

/-- The cells of the grid that a rule lists as its range. -/
def listedCells (rule : Rule) (grid : Grid) : List Cell :=
  Offset.place grid grid.center rule.rangeOffsets

section Range

variable {rule : Rule} (hcustom : rule.keywordIn RangeMode.ofName? "range_mode" = some .custom)
  (given : Sliders) {grid : Grid}
include hcustom

/-- When some listed cell is on the grid the range is the list. -/
theorem tileRangeIn_of_listed (h : rule.listedCells grid ≠ []) :
    rule.tileRangeIn given grid = .custom (rule.listedCells grid) := by
  have hsome : (rule.listedCells grid).isEmpty = false := by
    simpa using h
  unfold tileRangeIn
  rw [hcustom]
  show (if (rule.listedCells grid).isEmpty then _ else _) = _
  rw [hsome]
  rfl

/-- When no listed cell is on the grid the range is the band. -/
theorem tileRangeIn_of_unlisted (h : rule.listedCells grid = []) :
    rule.tileRangeIn given grid = .standard (rule.bandIn given) := by
  unfold tileRangeIn
  rw [hcustom]
  show (if (rule.listedCells grid).isEmpty then _ else _) = _
  rw [h]
  rfl

end Range

namespace SameButBand

variable {r r' : Rule} (h : r.SameButBand r')
include h

/-- The two rules list the same cells. -/
theorem listedCells_eq (grid : Grid) : r'.listedCells grid = r.listedCells grid := by
  unfold listedCells
  rw [rangeOffsets_eq (h _ (by decide)) (h _ (by decide))]

/-- The two rules have the same restrictions. -/
theorem restrictions_eq : r'.restrictions = r.restrictions := by
  refine (Rule.restrictions_eq fun key hkey => h key ?_).symm
  revert key
  decide

/-- With a listed cell on the grid, the bounds change nothing about the origins. -/
theorem isOrigin_eq (hcustom : r.keywordIn RangeMode.ofName? "range_mode" = some .custom)
    {grid : Grid} (hlisted : r.listedCells grid ≠ []) {given given' : Sliders} {t t' : Tile}
    (ht : Tile.StandsFor r given grid t) (ht' : Tile.StandsFor r' given' grid t') :
    t'.isOrigin = t.isOrigin := by
  have hcustom' : r'.keywordIn RangeMode.ofName? "range_mode" = some .custom :=
    (h "range_mode" (by decide)).keywordIn_eq.symm.trans hcustom
  have hgrid : t'.grid = t.grid := ht'.grid_eq.trans ht.grid_eq.symm
  have hrange : t'.range = t.range := by
    rw [ht.range_eq, ht'.range_eq, tileRangeIn_of_listed hcustom given hlisted,
      tileRangeIn_of_listed hcustom' given' (h.listedCells_eq grid ▸ hlisted), h.listedCells_eq]
  have hrestrictions : t'.restrictions = t.restrictions := by
    rw [ht.restrictions_eq, ht'.restrictions_eq, h.restrictions_eq]
  exact Tile.isOrigin_congr hgrid hrange hrestrictions

end SameButBand

end Rule

/-! ## Rules with a listed range -/

/-- A tile rule with a listed range can be shown. If the rule lists a cell of the grid, then on
every board the origins are the listed cells that meet the restrictions, and every rule that differs
in its bounds only has the same origins, whatever the sliders and options are. Otherwise the origins
are the cells within the band that meet the restrictions. -/
theorem Rule.origins_of_custom_range {rule : Rule} (htile : rule.targetMode = .ok .tile)
    (hcustom : rule.keywordIn RangeMode.ofName? "range_mode" = some .custom) (grid : Grid)
    (given : Sliders) (options : RenderOptions) :
    ∃ rendered tile, (rule.render grid given options).1 = .ok rendered ∧
      rendered.scenario = .tile tile ∧
      (rule.listedCells grid ≠ [] →
        (∀ board c, tile.isOrigin board c = true ↔ c ∈ rule.listedCells grid ∧
          rule.restrictions.all (tile.allows board c) = true) ∧
        ∀ (rule' : Rule) (given' : Sliders) (options' : RenderOptions), rule.SameButBand rule' →
          ∃ rendered' tile', (rule'.render grid given' options').1 = .ok rendered' ∧
            rendered'.scenario = .tile tile' ∧ tile'.isOrigin = tile.isOrigin) ∧
      (rule.listedCells grid = [] → ∀ board c, tile.isOrigin board c = true ↔
        grid.contains c = true ∧
          TileRange.within (c.manhattan grid.center) (rule.bandIn given) = true ∧
            rule.restrictions.all (tile.allows board c) = true) := by
  obtain ⟨rendered, tile, hrendered, hscenario, ht⟩ := exists_render_tile htile grid given options
  refine ⟨rendered, tile, hrendered, hscenario, fun hlisted => ⟨fun board c => ?_, ?_⟩,
    fun hunlisted board c => ?_⟩
  · have hgrid : ∀ e ∈ rule.listedCells grid, tile.grid.contains e = true := by
      intro e he
      rw [ht.grid_eq]
      exact (Offset.mem_place.1 he).1
    rw [Tile.isOrigin_iff_of_listed (ht.range_eq.trans (tileRangeIn_of_listed hcustom given hlisted))
      hgrid, ht.restrictions_eq]
  · -- The other rule may differ in its band, which a listed range does not look at.
    intro rule' given' options' hsame
    have htile' := (hsame "target_mode" (by decide)).targetMode_eq htile
    obtain ⟨rendered', tile', hrendered', hscenario', ht'⟩ :=
      exists_render_tile htile' grid given' options'
    exact ⟨rendered', tile', hrendered', hscenario', hsame.isOrigin_eq hcustom hlisted ht ht'⟩
  · rw [Tile.isOrigin_iff_of_standard
      (ht.range_eq.trans (tileRangeIn_of_unlisted hcustom given hunlisted)), ht.restrictions_eq,
      ht.grid_eq]

/-- A rule that lists one offset as its range, with a maximum range of one. -/
def Rule.exampleListed (offset : String) : Rule :=
  ⟨[], [⟨"target_mode", 0, "tile"⟩, ⟨"range_mode", 1, "custom"⟩, ⟨"custom_range", 2, offset⟩,
    ⟨"max_range", 3, "1"⟩], none⟩

/-- The rule that lists the cell below the actor has the same origins whatever its bounds are. -/
theorem Rule.origins_of_custom_range_example :
    ∃ rendered tile, ((exampleListed "[1 0]").render (.ofSide 3) .empty .standard).1 =
        .ok rendered ∧ rendered.scenario = .tile tile ∧
      (∀ board c, tile.isOrigin board c = true ↔
        c ∈ (exampleListed "[1 0]").listedCells (.ofSide 3) ∧
          (exampleListed "[1 0]").restrictions.all (tile.allows board c) = true) ∧
      ∀ given options, ∃ rendered' tile',
        (Rule.render ⟨[], (exampleListed "[1 0]").fields ++ [⟨"min_range", 4, "level + 2"⟩], none⟩
          (.ofSide 3) given options).1 = .ok rendered' ∧
        rendered'.scenario = .tile tile' ∧ tile'.isOrigin = tile.isOrigin := by
  have hlisted : (exampleListed "[1 0]").listedCells (.ofSide 3) ≠ [] := by
    have hcell : (exampleListed "[1 0]").listedCells (.ofSide 3) = [⟨2, 1⟩] := by decide +kernel
    rw [hcell]
    exact List.cons_ne_nil _ _
  have htile : (exampleListed "[1 0]").targetMode = .ok .tile := by decide +kernel
  have hcustom : (exampleListed "[1 0]").keywordIn RangeMode.ofName? "range_mode" =
    some .custom := by decide +kernel
  obtain ⟨rendered, tile, hrendered, hscenario, hon, -⟩ :=
    origins_of_custom_range htile hcustom (.ofSide 3) .empty .standard
  obtain ⟨horigins, hsame⟩ := hon hlisted
  refine ⟨rendered, tile, hrendered, hscenario, horigins, fun given options => ?_⟩
  refine hsame _ given options fun key hkey => .of_field?_eq ?_
  simp only [bandKeys, List.mem_cons, List.not_mem_nil, or_false, not_or] at hkey
  have hmin : ("min_range" == key) = false := beq_eq_false_iff_ne.2 (Ne.symm hkey.1)
  unfold field?
  simp [List.findRev?_eq_find?_reverse, hmin]

/-- Offsets that all lead off the grid do not keep the bounds from counting: the rule lists an
offset, and yet the actor's cell is an origin. -/
theorem Rule.band_of_far_offset :
    ¬ ∀ rule : Rule, rule.targetMode = .ok .tile →
      rule.keywordIn RangeMode.ofName? "range_mode" = some .custom →
      (rule.offsets "custom_range").isEmpty = false →
        ∀ (grid : Grid) (given : Sliders) (options : RenderOptions) (rendered : Rendered)
          (tile : Tile), (rule.render grid given options).1 = .ok rendered →
          rendered.scenario = .tile tile → ∀ board c, tile.isOrigin board c = true →
            ∃ o ∈ rule.rangeOffsets, o.cellFrom? grid.center = some c := by
  intro hlisted
  let rule := exampleListed "[20 0]"
  let grid : Grid := .ofSide 3
  have htile : rule.targetMode = .ok .tile := by decide +kernel
  obtain ⟨rendered, hrendered, hscenario⟩ := render_of_mode htile grid .empty .standard
  have horigin : (Tile.read grid rule ⟨.empty, []⟩).1.isOrigin (.empty grid) grid.center = true := by
    decide +kernel
  have hnowhere : ¬ ∃ o ∈ rule.rangeOffsets, o.cellFrom? grid.center = some grid.center := by
    decide +kernel
  exact hnowhere (hlisted rule htile (by decide +kernel) (by decide +kernel) grid .empty .standard
    rendered _ hrendered hscenario (.empty grid) grid.center horigin)

end Reticle
