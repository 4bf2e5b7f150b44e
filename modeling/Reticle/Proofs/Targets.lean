import Reticle.Proofs.Answers

/-!
# What makes a cell a target

Each kind of scenario finds targets by a search for the best of several candidates. Whether there
is any does not depend on which is best: a cell is a target exactly when some candidate covers it
(`Tile.isTargetable_iff`, `Directional.isTargetable_iff`, `Dash.isTargetable_iff`). Statements that
compare the targets of two boards or of two rules start from these.
-/

namespace Reticle

/-! ## Tile rules -/

/-- A nearest origin is found exactly when the area of some origin covers the cell. -/
theorem TileSurvey.isSome_nearest?_iff {s : TileSurvey} {c : Cell} :
    (s.nearest? c).isSome = true ↔ ∃ entry ∈ s.reach, c ∈ entry.2 := by
  constructor
  · intro h
    obtain ⟨entry, hentry⟩ := Option.isSome_iff_exists.1 h
    exact ⟨entry, mem_of_nearest? hentry⟩
  · rintro ⟨entry, hmem, hcovers⟩
    obtain ⟨before, after, hreach⟩ := List.append_of_mem hmem
    -- From this entry on the search has a choice, whether or not it had one before.
    unfold nearest?
    rw [hreach, List.foldl_append, List.foldl_cons]
    refine isSome_foldl_choice ?_ ?_
    · intro b x
      split <;> rfl
    · cases before.foldl _ none with
      | none => simp [hcovers]
      | some b => split <;> rfl

namespace Tile

variable {t : Tile} {board : Board} {c : Cell}

/-- The reach lists every legal origin with the area thrown from it. -/
theorem mem_reach_iff {entry : Cell × List Cell} :
    entry ∈ t.reach board ↔
      ∃ origin, t.isOrigin board origin = true ∧ entry = (origin, t.areaFrom origin) := by
  unfold reach
  rw [List.mem_map]
  constructor
  · rintro ⟨origin, horigin, rfl⟩
    exact ⟨origin, (List.mem_filter.1 horigin).2, rfl⟩
  · rintro ⟨origin, horigin, rfl⟩
    have hgrid := Grid.mem_cells.2 (contains_of_isOrigin horigin)
    exact ⟨origin, List.mem_filter.2 ⟨hgrid, horigin⟩, rfl⟩

/-- A target is a legal origin or, if areas count, a cell in the area of one. -/
theorem isTargetable_iff :
    (TileSurvey.of t board).isTargetable c = true ↔
      t.isOrigin board c = true ∨
        t.includesArea = true ∧ ∃ origin, t.isOrigin board origin = true ∧ c ∈ t.areaFrom origin := by
  have htarget : (TileSurvey.of t board).isTargetable c =
      (t.isOrigin board c || ((TileSurvey.of t board).nearest? c).isSome) := rfl
  rw [htarget, Bool.or_eq_true, TileSurvey.isSome_nearest?_iff]
  refine or_congr_right ?_
  show (∃ entry ∈ if t.includesArea then t.reach board else [], c ∈ entry.2) ↔ _
  cases t.includesArea with
  | false => simp
  | true =>
    simp only [if_true, true_and, mem_reach_iff]
    constructor
    · rintro ⟨_, ⟨origin, horigin, rfl⟩, hcovers⟩
      exact ⟨origin, horigin, hcovers⟩
    · rintro ⟨origin, horigin, hcovers⟩
      exact ⟨_, ⟨origin, horigin, rfl⟩, hcovers⟩

end Tile

/-! ## Directional rules -/

namespace DirectionalSurvey

variable {s : DirectionalSurvey} {c : Cell}

/-- A splash has a source for a cell when some clear cell of a lane is within its radius, unless it
is the actor and spared. -/
theorem isSome_splashSource?_iff {radius : Float} :
    (s.splashSource? c radius).isSome = true ↔
      ¬ (s.scenario.sparesActor = true ∧ c = s.scenario.grid.center) ∧
        ∃ lane ∈ s.lanes, ∃ source ∈ lane.clear,
          (Number.exact radius).isAtLeast (c.manhattan source) = true := by
  unfold splashSource?
  by_cases hspared : s.scenario.sparesActor = true ∧ c = s.scenario.grid.center
  · have htest : (s.scenario.sparesActor && c == s.scenario.grid.center) = true := by
      simp [hspared]
    rw [if_pos htest]
    simp [hspared]
  · have htest : ¬ (s.scenario.sparesActor && c == s.scenario.grid.center) = true := by
      simpa using hspared
    rw [if_neg htest, List.find?_isSome]
    simp only [List.mem_flatMap]
    constructor
    · rintro ⟨source, ⟨lane, hlane, hclear⟩, hradius⟩
      exact ⟨hspared, lane, hlane, source, hclear, hradius⟩
    · rintro ⟨-, lane, hlane, source, hclear, hradius⟩
      exact ⟨source, ⟨lane, hlane, hclear⟩, hradius⟩

/-- A cell has a pattern when it lies in that of a lane with a clear cell. -/
theorem isSome_bestPattern?_iff :
    (s.bestPattern? c).isSome = true ↔
      ∃ lane ∈ s.lanes, c ∈ lane.lane.pattern ∧ ∃ source, source ∈ lane.clear := by
  unfold bestPattern?
  rw [isSome_firstGreatest, Bool.not_eq_true', List.isEmpty_eq_false_iff_exists_mem]
  simp only [List.mem_map, List.mem_filter, Bool.and_eq_true, List.contains_iff_mem,
    Bool.not_eq_true', List.isEmpty_eq_false_iff_exists_mem]
  constructor
  · rintro ⟨_, lane, ⟨hlane, hcovers, hclear⟩, rfl⟩
    exact ⟨lane, hlane, hcovers, hclear⟩
  · rintro ⟨lane, hlane, hcovers, hclear⟩
    exact ⟨_, lane, ⟨hlane, hcovers, hclear⟩, rfl⟩

end DirectionalSurvey

namespace Directional

/-- Whether a lane covers a cell once a certain cell of it is selected. -/
def Covers (s : Directional) (lane : Lane) (source c : Cell) : Prop :=
  match s.area with
  | .splash radius => ¬ (s.sparesActor = true ∧ c = s.grid.center) ∧
      (Number.exact radius).isAtLeast (c.manhattan source) = true
  | .placed _ => source = c
  | .pattern _ => c ∈ lane.pattern

variable {s : Directional} {board : Board} {c : Cell}

/-- The clear cells of the lanes on a board are the selectable ones in view. -/
theorem exists_mem_lanes_iff {P : Lane → Cell → Prop} :
    (∃ lane ∈ (DirectionalSurvey.of s board).lanes, ∃ source ∈ lane.clear, P lane.lane source) ↔
      ∃ lane ∈ s.lanes, ∃ source ∈ lane.selection, board.pathClear source = true ∧
        P lane source := by
  unfold DirectionalSurvey.of
  simp only [List.mem_map]
  constructor
  · rintro ⟨_, ⟨lane, hlane, rfl⟩, source, hsource, hcovers⟩
    obtain ⟨hselected, hclear⟩ := List.mem_filter.1 hsource
    exact ⟨lane, hlane, source, hselected, hclear, hcovers⟩
  · rintro ⟨lane, hlane, source, hselected, hclear, hcovers⟩
    exact ⟨_, ⟨lane, hlane, rfl⟩, source, List.mem_filter.2 ⟨hselected, hclear⟩, hcovers⟩

/-- A target is a cell of the grid that some lane covers when a cell with a clear path is selected
on it. -/
theorem isTargetable_iff :
    (DirectionalSurvey.of s board).isTargetable c = true ↔
      s.grid.contains c = true ∧ ∃ lane ∈ s.lanes, ∃ source ∈ lane.selection,
        board.pathClear source = true ∧ s.Covers lane source c := by
  by_cases hc : s.grid.contains c = true
  · rw [← exists_mem_lanes_iff, and_iff_right hc]
    have hgrid : (DirectionalSurvey.of s board).scenario.grid.contains c = true := hc
    have htarget : (DirectionalSurvey.of s board).isTargetable c =
        ((DirectionalSurvey.of s board).hit? c).isSome := rfl
    unfold Covers
    cases harea : s.area with
    | splash radius =>
      have hhit := DirectionalSurvey.hit?_of_splash hgrid harea
      rw [htarget, hhit, Option.isSome_map, DirectionalSurvey.isSome_splashSource?_iff]
      constructor
      · rintro ⟨hspared, lane, hlane, source, hsource, hradius⟩
        exact ⟨lane, hlane, source, hsource, hspared, hradius⟩
      · rintro ⟨lane, hlane, source, hsource, hspared, hradius⟩
        exact ⟨hspared, lane, hlane, source, hsource, hradius⟩
    | placed area =>
      have hhit := DirectionalSurvey.hit?_of_placed hgrid harea
      rw [htarget, hhit, Option.isSome_map, List.find?_isSome]
      simp only [List.contains_iff_mem, exists_eq_right]
    | pattern shape =>
      have hhit := DirectionalSurvey.hit?_of_pattern hgrid harea
      rw [htarget, hhit, Option.isSome_map, DirectionalSurvey.isSome_bestPattern?_iff]
      constructor
      · rintro ⟨lane, hlane, hcovers, source, hsource⟩
        exact ⟨lane, hlane, source, hsource, hcovers⟩
      · rintro ⟨lane, hlane, source, hsource, hcovers⟩
        exact ⟨lane, hlane, hcovers, source, hsource⟩
  · have hnone := DirectionalSurvey.hit?_of_not_contains
      (s := DirectionalSurvey.of s board) (Bool.eq_false_iff.2 hc)
    have htarget : (DirectionalSurvey.of s board).isTargetable c = false := by
      unfold DirectionalSurvey.isTargetable
      rw [hnone]
      rfl
    rw [htarget]
    simp [hc]

end Directional

/-! ## Dashes -/

/-- A target is a cell that the dash in some direction steps on or that lies in the area around its
last cell. -/
theorem Dash.isTargetable_iff {s : Dash} {board : Board} {c : Cell} :
    (DashSurvey.of s board).isTargetable c = true ↔
      ∃ d ∈ Direction.cardinals, c ∈ s.path board d ∨
        c ∈ s.area.cells s.grid (s.lane board d).stop (some d) := by
  unfold DashSurvey.isTargetable DashSurvey.of Dash.lanes
  simp only [List.any_eq_true, List.mem_map, List.contains_iff_mem]
  constructor
  · rintro ⟨_, ⟨d, hd, rfl⟩, hhits⟩
    exact ⟨d, hd, List.mem_append.1 (List.mem_eraseDups.1 hhits)⟩
  · rintro ⟨d, hd, hhits⟩
    exact ⟨_, ⟨d, hd, rfl⟩, List.mem_eraseDups.2 (List.mem_append.2 hhits)⟩

end Reticle
