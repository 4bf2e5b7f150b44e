import Mathlib.Data.List.Induction
import Reticle.Proofs.FewerTargets
import Reticle.Proofs.Rendering

/-!
# Reached cells go to the nearest origin

A tile rule that shows what its areas reach looks at the legal origins one after the other and keeps
the best that it has seen: a later origin takes the place of an earlier one only if it is nearer. So
after any number of origins the kept one comes first among those that cover the cell
(`TileSurvey.precedes_of_nearest?`), and since origins are looked at in reading order, of several
that are equally near it is the one that is read first.
-/

namespace Reticle

/-! ## The order of origins -/

/-- Seen from a cell, one origin comes before another: it is nearer, or it is as near and comes
first in reading order. -/
def Cell.Precedes (c a b : Cell) : Prop :=
  c.manhattan a < c.manhattan b ∨ c.manhattan a = c.manhattan b ∧ a < b

namespace Cell.Precedes

variable {c a b e : Cell}

/-- Coming first is transitive. -/
theorem trans (hab : c.Precedes a b) (hbe : c.Precedes b e) : c.Precedes a e := by
  unfold Precedes at *
  rcases hab with hab | ⟨hab, hread⟩
  · exact .inl (by omega)
  · rcases hbe with hbe | ⟨hbe, hread'⟩
    · exact .inl (by omega)
    · exact .inr ⟨by omega, Cell.lt_trans hread hread'⟩

/-- Of two origins at most one comes first. -/
theorem asymm (hab : c.Precedes a b) : ¬ c.Precedes b a := by
  intro hba
  rcases hab.trans hba with hnearer | ⟨-, hread⟩
  · exact absurd hnearer (Int.lt_irrefl _)
  · exact Cell.lt_irrefl a hread

end Cell.Precedes

/-- The cells of a grid are listed in reading order. -/
theorem Grid.pairwise_cells (g : Grid) : g.cells.Pairwise (· < ·) := by
  unfold cells
  rw [List.pairwise_flatMap]
  constructor
  · intro row _
    rw [List.pairwise_map]
    refine List.pairwise_lt_range.imp ?_
    intro col col' h
    exact Cell.lt_def.2 (.inr ⟨rfl, Int.ofNat_lt.2 h⟩)
  · refine List.pairwise_lt_range.imp ?_
    intro row row' h c hc c' hc'
    obtain ⟨col, -, rfl⟩ := List.mem_map.1 hc
    obtain ⟨col', -, rfl⟩ := List.mem_map.1 hc'
    exact Cell.lt_def.2 (.inl (Int.ofNat_lt.2 h))

/-! ## The search -/

namespace TileSurvey

variable {tile : Tile} {board : Board} {c : Cell}

/-- What the last origin does to the choice among the others. -/
theorem nearest?_append (xs : List (Cell × List Cell)) (x : Cell × List Cell) :
    (mk tile board (xs ++ [x])).nearest? c =
      if c ∈ x.2 ∧ ∀ best ∈ (mk tile board xs).nearest? c,
          c.manhattan x.1 < c.manhattan best.1 then
        some x
      else (mk tile board xs).nearest? c := by
  have hfold : (mk tile board (xs ++ [x])).nearest? c =
      if x.2.contains c && ((mk tile board xs).nearest? c).all fun best =>
          c.manhattan x.1 < c.manhattan best.1 then
        some x
      else (mk tile board xs).nearest? c := by
    unfold nearest?
    exact List.foldl_append
  rw [hfold]
  simp only [Bool.and_eq_true, List.contains_iff_mem, Option.all_eq_true, decide_eq_true_eq,
    Option.mem_def]

/-- While origins come in reading order, the kept one precedes every other that covers the cell. -/
theorem precedes_of_nearest? {reach : List (Cell × List Cell)}
    (hreach : reach.Pairwise fun x y => x.1 < y.1) {entry : Cell × List Cell}
    (h : (mk tile board reach).nearest? c = some entry) {other : Cell × List Cell}
    (hother : other ∈ reach) (hcovers : c ∈ other.2) :
    other = entry ∨ c.Precedes entry.1 other.1 := by
  induction reach using List.reverseRecOn generalizing entry other with
  | nil => exact absurd hother List.not_mem_nil
  | append_singleton xs x ih =>
    obtain ⟨hxs, -, hread⟩ := List.pairwise_append.1 hreach
    rw [nearest?_append] at h
    have hmem : other ∈ xs ∨ other = x := by
      rwa [List.mem_append, List.mem_singleton] at hother
    cases hbest : (mk tile board xs).nearest? c with
    | none =>
      -- Nothing was kept before, so none of the earlier origins covers the cell.
      have hnone : ∀ y ∈ xs, c ∉ y.2 := by
        intro y hy hyc
        have hsome := (isSome_nearest?_iff (s := mk tile board xs)).2 ⟨y, hy, hyc⟩
        rw [hbest] at hsome
        exact Bool.noConfusion hsome
      rw [hbest] at h
      split at h
      · cases h
        exact .inl (hmem.resolve_left fun hy => hnone other hy hcovers)
      · cases h
    | some best =>
      obtain ⟨hbestmem, -⟩ := mem_of_nearest? hbest
      rw [hbest] at h
      split at h
      · next htakes =>
        cases h
        have hnearer := htakes.2 best rfl
        rcases hmem with hy | rfl
        · rcases ih hxs hbest hy hcovers with rfl | hprecedes
          · exact .inr (.inl hnearer)
          · exact .inr (Cell.Precedes.trans (.inl hnearer) hprecedes)
        · exact .inl rfl
      · next hstays =>
        cases h
        rcases hmem with hy | rfl
        · exact ih hxs hbest hy hcovers
        · -- The last origin covers the cell but is not nearer, and it is read last.
          have hfar : c.manhattan entry.1 ≤ c.manhattan other.1 := by
            by_contra hlt
            refine hstays ⟨hcovers, ?_⟩
            rintro _ ⟨⟩
            exact Int.not_le.1 hlt
          have hlast : entry.1 < other.1 := hread entry hbestmem other (List.mem_singleton_self _)
          rcases Int.lt_or_eq_of_le hfar with hlt | heq
          · exact .inr (.inl hlt)
          · exact .inr (.inr ⟨heq, hlast⟩)

end TileSurvey

/-! ## Legal origins -/

namespace Tile

variable {t : Tile} {board : Board} {c : Cell}

/-- Of the legal origins whose area covers a cell, this one is nearest to it, and the first in
reading order of those that are equally near. -/
structure IsNearest (t : Tile) (board : Board) (c origin : Cell) : Prop where
  legal : t.isOrigin board origin = true
  covers : c ∈ t.areaFrom origin
  precedes : ∀ other, t.isOrigin board other = true → c ∈ t.areaFrom other →
    other = origin ∨ c.Precedes origin other

/-- A cell has one nearest origin only. -/
theorem IsNearest.unique {origin origin' : Cell} (h : t.IsNearest board c origin)
    (h' : t.IsNearest board c origin') : origin' = origin := by
  rcases h.precedes origin' h'.legal h'.covers with heq | hprecedes
  · exact heq
  · rcases h'.precedes origin h.legal h.covers with heq | hprecedes'
    · exact heq.symm
    · exact absurd hprecedes' hprecedes.asymm

/-- The reach is listed in the order of its cells. -/
theorem pairwise_reach : (t.reach board).Pairwise fun x y => x.1 < y.1 := by
  unfold reach
  rw [List.pairwise_map]
  exact t.grid.pairwise_cells.filter _

/-- A scenario that includes its area is surveyed with its reach. -/
theorem of_eq (hincludes : t.includesArea = true) :
    TileSurvey.of t board = ⟨t, board, t.reach board⟩ := by
  unfold TileSurvey.of
  rw [if_pos hincludes]

/-- What the search finds is the nearest legal origin that covers the cell. -/
theorem isNearest_of_nearest? (hincludes : t.includesArea = true) {entry : Cell × List Cell}
    (h : (TileSurvey.of t board).nearest? c = some entry) :
    t.IsNearest board c entry.1 ∧ entry.2 = t.areaFrom entry.1 := by
  obtain ⟨hmem, hcovers⟩ := TileSurvey.mem_of_nearest? h
  obtain ⟨origin, horigin, rfl⟩ := exists_of_mem_reach hmem
  refine ⟨⟨horigin, hcovers, ?_⟩, rfl⟩
  intro other hother hothercovers
  rw [of_eq hincludes] at h
  have hentry := mem_reach_iff.2 ⟨other, hother, rfl⟩
  rcases TileSurvey.precedes_of_nearest? pairwise_reach h hentry hothercovers with heq | hprecedes
  · exact .inl (congrArg Prod.fst heq)
  · exact .inr hprecedes

/-- The search finds an origin as soon as one covers the cell. -/
theorem exists_nearest?_eq (hincludes : t.includesArea = true) {origin : Cell}
    (horigin : t.isOrigin board origin = true) (hcovers : c ∈ t.areaFrom origin) :
    ∃ entry, (TileSurvey.of t board).nearest? c = some entry := by
  apply Option.isSome_iff_exists.1
  rw [TileSurvey.isSome_nearest?_iff, of_eq hincludes]
  exact ⟨_, mem_reach_iff.2 ⟨origin, horigin, rfl⟩, hcovers⟩

/-- A cell that some legal origin covers has a nearest one. -/
theorem exists_isNearest (hincludes : t.includesArea = true) {origin : Cell}
    (horigin : t.isOrigin board origin = true) (hcovers : c ∈ t.areaFrom origin) :
    ∃ nearest, t.IsNearest board c nearest := by
  obtain ⟨entry, hentry⟩ := exists_nearest?_eq hincludes horigin hcovers
  exact ⟨entry.1, (isNearest_of_nearest? hincludes hentry).1⟩

/-- A cell that is no legal origin has the area of the nearest one that covers it. -/
theorem areaCells_of_isNearest (hincludes : t.includesArea = true)
    (hc : ¬ t.isOrigin board c = true) {origin : Cell} (h : t.IsNearest board c origin) :
    (TileSurvey.of t board).areaCells c = t.areaFrom origin := by
  obtain ⟨entry, hentry⟩ := exists_nearest?_eq hincludes h.legal h.covers
  obtain ⟨hnearest, harea⟩ := isNearest_of_nearest? hincludes hentry
  have hcells : (TileSurvey.of t board).areaCells c =
      (((TileSurvey.of t board).nearest? c).map (·.2)).getD [] := by
    unfold TileSurvey.areaCells
    exact if_neg hc
  rw [hcells, hentry, Option.map_some, Option.getD_some, harea, h.unique hnearest]

end Tile

/-- A tile rule is read as a tile scenario. -/
theorem Scenario.read_tile (grid : Grid) (dash : Bool) (rule : Rule) (state : ReadState) :
    (read .tile grid dash rule state).1 = .tile (Tile.read grid rule state).1 := rfl

/-- Which tile scenarios count the cells in areas as targets. -/
theorem Tile.includesArea_of_render {text : String} {grid : Grid} {sliders after : Sliders}
    {options : RenderOptions} {rendered : Rendered}
    (h : render text grid sliders options = (.ready rendered, after)) {t : Tile}
    (ht : rendered.scenario = .tile t) :
    t.includesArea =
      ((Rule.ofText text).flag "range_display_include_aoe" && t.area.shape.isCustom) := by
  have hmode : rendered.mode = .tile := by
    have hread := readFrom_of_render h
    rw [ht] at hread
    generalize rendered.mode = mode at hread
    cases hread with
    | tile _ => rfl
  obtain ⟨-, hscenario⟩ := read_of_render h
  rw [hmode, ht, Scenario.read_tile] at hscenario
  obtain ⟨hstands, -⟩ := Tile.yields_standsFor sliders.forgetRequired (Rule.ofText text) grid
    ⟨sliders.forgetRequired, []⟩ (Sliders.SameValues.refl _)
  have htile : t = (Tile.read grid (Rule.ofText text) ⟨sliders.forgetRequired, []⟩).1 :=
    Scenario.tile.inj hscenario
  rw [htile, hstands.includesArea_eq, hstands.area_eq]

/-- A tile rule with listed offsets that shows what its areas reach has as its targets the legal
origins and the cells in their areas. A target that is no legal origin has the area of the nearest
legal origin that covers it, which is unique: of several that are equally near it is the first in
reading order. -/
theorem render_reaches_from_nearest_origin {text : String} {grid : Grid} {sliders after : Sliders}
    {options : RenderOptions} {rendered : Rendered}
    (h : render text grid sliders options = (.ready rendered, after)) {t : Tile}
    (ht : rendered.scenario = .tile t)
    (hshown : (Rule.ofText text).flag "range_display_include_aoe" = true)
    (hcustom : t.area.shape.isCustom = true) (board : Board) (c : Cell) :
    (rendered.scenario.isTargetable board c = true ↔
      t.isOrigin board c = true ∨
        ∃ origin, t.isOrigin board origin = true ∧ c ∈ t.areaFrom origin) ∧
    (¬ t.isOrigin board c = true → rendered.scenario.isTargetable board c = true →
      (∃! origin, t.IsNearest board c origin) ∧
      ∀ origin, t.IsNearest board c origin →
        rendered.scenario.areaCells board c = t.areaFrom origin) := by
  have hincludes : t.includesArea = true := by
    rw [Tile.includesArea_of_render h ht, hshown, hcustom]
    rfl
  have htargets : rendered.scenario.isTargetable board c = true ↔
      t.isOrigin board c = true ∨
        ∃ origin, t.isOrigin board origin = true ∧ c ∈ t.areaFrom origin := by
    rw [ht]
    show (TileSurvey.of t board).isTargetable c = true ↔ _
    rw [Tile.isTargetable_iff, hincludes, and_iff_right rfl]
  refine ⟨htargets, fun hc htarget => ⟨?_, fun origin hnearest => ?_⟩⟩
  · obtain ⟨origin, horigin, hcovers⟩ := (htargets.1 htarget).resolve_left hc
    obtain ⟨nearest, hnearest⟩ := Tile.exists_isNearest hincludes horigin hcovers
    exact ⟨nearest, hnearest, fun other hother => hnearest.unique hother⟩
  · rw [ht]
    exact Tile.areaCells_of_isNearest hincludes hc hnearest

/-- A rule whose areas reach two cells ahead of the chosen one. -/
def reachingRule : String :=
  "target_mode tile\nmin_range 1\nmax_range 2\naoe_mode custom\ncustom_aoe [1 0][2 0]\n" ++
    "range_display_include_aoe true"

/-- The cell beyond the range is reached from two origins, and the nearer one is chosen. -/
theorem render_reaches_from_nearest_origin_example :
    ∃ rendered after t,
      render reachingRule (.ofSide 7) .empty .standard = (.ready rendered, after) ∧
      rendered.scenario = .tile t ∧ ∃! origin, t.IsNearest (.empty (.ofSide 7)) ⟨3, 6⟩ origin := by
  obtain ⟨hblank, hmode, hshown⟩ : ¬ Text.isBlankText reachingRule = true ∧
      (Rule.ofText reachingRule).targetMode = .ok .tile ∧
      (Rule.ofText reachingRule).flag "range_display_include_aoe" = true := by
    decide +kernel
  obtain ⟨rendered, after, hready, -, hscenario⟩ :=
    exists_render_of_targetMode hblank hmode (.ofSide 7) .empty .standard
  obtain ⟨t, ht⟩ : ∃ t, t = (Tile.read (.ofSide 7) (Rule.ofText reachingRule)
      ⟨Sliders.empty.forgetRequired, []⟩).1 := ⟨_, rfl⟩
  have htile : rendered.scenario = .tile t := by
    rw [hscenario, ht, Scenario.read_tile]
  obtain ⟨hcustom, horigin, htarget⟩ : t.area.shape.isCustom = true ∧
      ¬ t.isOrigin (.empty (.ofSide 7)) ⟨3, 6⟩ = true ∧
      (TileSurvey.of t (.empty (.ofSide 7))).isTargetable ⟨3, 6⟩ = true := by
    rw [ht]
    decide +kernel
  obtain ⟨-, hnearest⟩ := render_reaches_from_nearest_origin hready htile hshown hcustom
    (.empty (.ofSide 7)) ⟨3, 6⟩
  rw [htile] at hnearest
  exact ⟨rendered, after, t, hready, htile, (hnearest horigin htarget).1⟩

end Reticle
