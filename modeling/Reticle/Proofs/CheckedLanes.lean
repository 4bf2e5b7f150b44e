import Reticle.Proofs.CheckedTiles
import Reticle.Proofs.DashRuns

/-!
# Queries along directions in 32 bits

A directional rule asks first whether a cell lies on the grid; its distances and its displacement
from the actor are small then. The checked contest of lanes compares before it looks whether a lane
can be used, and comes to the same lane as the choice among the usable ones
(`Directional.foldl_contest`). A dash does not ask where a cell lies. It takes the displacement of
any cell before it knows whether a lane hits it, and for a cell at the low end of the 32-bit range
that is no 32-bit number any more (`CheckedDash.areaCells_exactly`).
-/

namespace Reticle

open Checked

/-- Directions are compared in 32 bits for the displacement between cells of moderate size. -/
theorem Cell.Moderate.dotFits {a b : Cell} (ha : a.Moderate) (hb : b.Moderate) (d : Direction) :
    d.DotFits (a.row - b.row) (a.col - b.col) := by
  obtain ⟨har, hac⟩ := ha
  obtain ⟨hbr, hbc⟩ := hb
  exact d.dotFits_of_natAbs_le (by omega) (by omega)

/-! ## Directional rules -/

namespace Directional

/-- The lane on which a cell can be selected is the one on which it lies, if its path is clear. -/
theorem find?_clear (s : Directional) (board : Board) (c : Cell) :
    ((DirectionalSurvey.of s board).lanes.find? (·.clear.contains c)).map (·.lane) =
      if board.pathClear c then s.lanes.find? (·.selection.contains c) else none := by
  have hclear : ∀ lane : Lane, (lane.selection.filter board.pathClear).contains c =
      (lane.selection.contains c && board.pathClear c) := by
    intro lane
    rw [Bool.eq_iff_iff, Bool.and_eq_true, List.contains_iff_mem, List.contains_iff_mem,
      List.mem_filter]
  unfold DirectionalSurvey.of
  rw [List.find?_map, Option.map_map]
  refine (congrFun Option.map_id _).trans ?_
  show s.lanes.find? (fun lane => (lane.selection.filter board.pathClear).contains c) = _
  simp only [hclear]
  cases board.pathClear c <;> simp

/-- The sources of a splash are the cells that can be selected. -/
theorem flatMap_clear (s : Directional) (board : Board) :
    (DirectionalSurvey.of s board).lanes.flatMap (·.clear) =
      (s.lanes.flatMap (·.selection)).filter board.pathClear := by
  unfold DirectionalSurvey.of
  rw [List.flatMap_map, List.filter_flatMap]

/-! ### The contest of lanes -/

/-- The lane's pattern covers the cell, and some cell of it can be selected. -/
def usable (board : Board) (c : Cell) (lane : Lane) : Bool :=
  lane.pattern.contains c && lane.selection.any board.pathClear

/-- `checkedContest` with numbers of any size. -/
def contest (board : Board) (c : Cell) (dRow dCol : Int) (best : Option (Lane × Int))
    (lane : Lane) : Option (Lane × Int) :=
  if lane.pattern.contains c then
    let rank := lane.direction.alignmentRank dRow dCol
    if best.any (rank ≤ ·.2) then best
    else if lane.selection.any board.pathClear then some (lane, rank)
    else best
  else best

/-- A lane of a survey is usable if some cell of it is clear. -/
theorem map_lane_filter (s : Directional) (board : Board) (c : Cell) :
    ((DirectionalSurvey.of s board).lanes.filter fun l =>
      l.lane.pattern.contains c && !l.clear.isEmpty).map (·.lane) =
      s.lanes.filter (usable board c) := by
  unfold DirectionalSurvey.of
  rw [List.filter_map, List.map_map]
  refine (List.map_id _).trans (List.filter_congr fun lane _ => ?_)
  have hclear : (!(lane.selection.filter board.pathClear).isEmpty) =
      lane.selection.any board.pathClear := by
    rw [Bool.eq_iff_iff, Bool.not_eq_true', List.isEmpty_eq_false_iff_exists_mem,
      List.any_eq_true]
    simp
  exact congrArg _ hclear

/-- A round with the rank of the best kept beside it takes a usable lane that ranks higher, wherever
it is found out that a lane is not usable. -/
theorem contest_ranked (board : Board) (c : Cell) (dRow dCol : Int) (best : Option Lane)
    (lane : Lane) :
    contest board c dRow dCol
        (best.map fun kept => (kept, kept.direction.alignmentRank dRow dCol)) lane =
      (if usable board c lane then
        better (fun lane => lane.direction.alignmentRank dRow dCol) best lane
      else best).map fun kept => (kept, kept.direction.alignmentRank dRow dCol) := by
  let rank : Lane → Int := fun lane => lane.direction.alignmentRank dRow dCol
  unfold contest usable
  cases lane.pattern.contains c with
  | false => rfl
  | true =>
    rw [Bool.true_and, if_pos rfl]
    cases lane.selection.any board.pathClear with
    | false => exact ite_self _
    | true =>
      cases best with
      | none => rfl
      | some kept =>
        show (if Option.any (rank lane ≤ ·.2) (some (kept, rank kept)) = true then
            some (kept, rank kept) else some (lane, rank lane)) =
          (if rank kept < rank lane then some lane else some kept).map fun kept => (kept, rank kept)
        by_cases hbetter : rank kept < rank lane
        · rw [if_pos hbetter, if_neg (by simpa using hbetter)]
          rfl
        · rw [if_neg hbetter, if_pos (by simpa using hbetter)]
          rfl

/-- Lanes that are not usable do not change the choice, and a lane that fits no better than the best
so far does not either. -/
theorem foldl_contest (board : Board) (c : Cell) (dRow dCol : Int) (lanes : List Lane) :
    (lanes.foldl (contest board c dRow dCol) none).map (·.1) =
      firstGreatest (fun lane => lane.direction.alignmentRank dRow dCol)
        (lanes.filter (usable board c)) := by
  let rank : Lane → Int := fun lane => lane.direction.alignmentRank dRow dCol
  let ranked : Option Lane → Option (Lane × Int) := Option.map fun lane => (lane, rank lane)
  have hfold : lanes.foldl (contest board c dRow dCol) (ranked none) =
      ranked ((lanes.filter (usable board c)).foldl (better rank) none) := by
    rw [List.foldl_filter]
    exact List.foldl_hom ranked fun best lane => contest_ranked board c dRow dCol best lane
  show (lanes.foldl (contest board c dRow dCol) (ranked none)).map (·.1) = _
  rw [hfold, Option.map_map]
  exact congrFun Option.map_id _

/-! ### Queries -/

section

variable {s : Directional} (h : s.Regular) {board : Board} {S : Prop}
  (hS : S → s.grid.side ≤ 0x10000000 ∧ board.grid.side ≤ 0x10000000) {c : Cell}
include h hS

/-- The paths that are looked at lead to cells of lanes. -/
theorem checkedPathClear_refines_of_selection {lane : Lane} (hlane : lane ∈ s.lanes)
    {source : Cell} (hsource : source ∈ lane.selection) :
    (board.checkedPathClear source).Refines (board.pathClear source) S :=
  board.checkedPathClear_refines fun hs =>
    ⟨(hS hs).2, Grid.moderate_of_contains (hS hs).1 (h.selection lane hlane source hsource)⟩

section

variable (hc : s.grid.contains c = true)
include hc

/-- The source of a splash is found alike with 32-bit numbers. -/
theorem checkedSplashSource?_refines (radius : Float) :
    (s.checkedSplashSource? board c radius).Refines
      ((DirectionalSurvey.of s board).splashSource? c radius) S := by
  let near : Cell → Bool := fun source => (Number.exact radius).isAtLeast (c.manhattan source)
  unfold checkedSplashSource? DirectionalSurvey.splashSource?
  rw [flatMap_clear, List.find?_filter]
  refine .ite (fun _ => .of_ok none S) fun _ => Refines.findM? fun source hsource => ?_
  obtain ⟨lane, hlane, hmem⟩ := List.mem_flatMap.1 hsource
  have hdistance := (c.checkedManhattan_exactly source).refines fun hs =>
    (Grid.moderate_of_contains (hS hs).1 hc).manhattan_le
      (Grid.moderate_of_contains (hS hs).1 (h.selection lane hlane source hmem))
  have hclear := checkedPathClear_refines_of_selection h hS hlane hmem
  refine hdistance.bind ?_
  show Refines _ (decide (board.pathClear source = true ∧ near source = true)) S
  cases hnear : near source with
  | true => simpa [near, hnear] using hclear
  | false => simpa [near, hnear] using Refines.of_ok false S

/-- The pattern for a cell is chosen alike with 32-bit numbers. -/
theorem checkedBestPattern?_refines :
    (s.checkedBestPattern? board c).Refines ((DirectionalSurvey.of s board).bestPattern? c) S := by
  have hmoderate : S → c.Moderate ∧ s.grid.center.Moderate := fun hs =>
    ⟨Grid.moderate_of_contains (hS hs).1 hc,
      Grid.moderate_of_contains (hS hs).1 s.grid.contains_center⟩
  have hdisplacement := (c.checkedDisplacement_exactly s.grid.center).refines fun hs =>
    Cell.displacement_fits ((hmoderate hs).1.manhattan_le (hmoderate hs).2)
  have hstep : ∀ best lane, lane ∈ s.lanes →
      (checkedContest board c (c.row - s.grid.center.row) (c.col - s.grid.center.col) best
        lane).Refines
        (contest board c (c.row - s.grid.center.row) (c.col - s.grid.center.col) best lane) S := by
    intro best lane hlane
    have hrank := (lane.direction.checkedRank_exactly _ _).refines fun hs =>
      (hmoderate hs).1.dotFits (hmoderate hs).2 lane.direction
    have hany := Refines.anyM fun source hsource =>
      checkedPathClear_refines_of_selection h hS hlane hsource
    exact .ite (fun _ => hrank.bind (.ite (fun _ => .of_ok best S) fun _ =>
      hany.bind (.ite (fun _ => .of_ok _ S) fun _ => .of_ok best S))) fun _ => .of_ok best S
  have hcontest := (Refines.foldlM (fun _ => True) (fun best _ lane hlane =>
    ⟨hstep best lane hlane, trivial⟩) (b := none) trivial).1.map (Option.map (·.1))
  unfold DirectionalSurvey.bestPattern?
  rw [map_lane_filter]
  rw [foldl_contest] at hcontest
  exact hdisplacement.bind hcontest

end

/-- For a cell on a lane its own path is looked at. -/
theorem checkedPathClear_refines_of_find? {lane : Lane}
    (hlane : s.lanes.find? (·.selection.contains c) = some lane) :
    (board.checkedPathClear c).Refines (board.pathClear c) S := by
  have hlies : lane.selection.contains c = true :=
    List.find?_some (p := fun lane : Lane => lane.selection.contains c) hlane
  exact checkedPathClear_refines_of_selection h hS (List.mem_of_find?_eq_some hlane)
    (List.contains_iff_mem.1 hlies)

/-- A cell is reached in the same way with 32-bit numbers. -/
theorem checkedHit?_refines (c : Cell) :
    (s.checkedHit? board c).Refines ((DirectionalSurvey.of s board).hit? c) S := by
  unfold checkedHit?
  by_cases hc : s.grid.contains c = true
  · have hcontains : (DirectionalSurvey.of s board).scenario.grid.contains c = true := hc
    rw [if_pos hc]
    cases harea : s.area with
    | splash radius =>
      rw [DirectionalSurvey.hit?_of_splash hcontains harea]
      exact (checkedSplashSource?_refines h hS hc radius).map (Option.map Hit.splash)
    | placed area =>
      have hselected := Option.map_map Hit.selected OpenLane.lane
        ((DirectionalSurvey.of s board).lanes.find? (·.clear.contains c))
      rw [DirectionalSurvey.hit?_of_placed hcontains harea]
      show Refines _ (Option.map (Hit.selected ∘ OpenLane.lane) _) S
      rw [← hselected, find?_clear]
      cases hlane : s.lanes.find? (·.selection.contains c) with
      | none =>
        rw [ite_self]
        exact .of_ok none S
      | some lane =>
        have hclear := checkedPathClear_refines_of_find? h hS hlane
        rw [apply_ite (Option.map Hit.selected)]
        exact hclear.map fun clear => if clear = true then some (Hit.selected lane) else none
    | pattern shape =>
      rw [DirectionalSurvey.hit?_of_pattern hcontains harea]
      exact (checkedBestPattern?_refines h hS hc).map (Option.map Hit.pattern)
  · rw [if_neg hc, DirectionalSurvey.hit?_of_not_contains (Bool.eq_false_iff.2 hc)]
    exact .of_ok none S

/-- The targets are the same with 32-bit numbers. -/
theorem checkedIsTargetable_refines (c : Cell) :
    (s.checkedIsTargetable board c).Refines ((DirectionalSurvey.of s board).isTargetable c) S :=
  (checkedHit?_refines h hS c).map Option.isSome

/-- The areas are the same with 32-bit numbers, in each of the ways in which a cell is reached. -/
theorem checkedAreaCells_refines (c : Cell) :
    (s.checkedAreaCells board c).Refines ((DirectionalSurvey.of s board).areaCells c) S := by
  refine (checkedHit?_refines h hS c).bind ?_
  have hsame : (DirectionalSurvey.of s board).scenario = s := rfl
  unfold DirectionalSurvey.areaCells
  rw [hsame]
  cases hhit : (DirectionalSurvey.of s board).hit? c with
  | none => cases s.area <;> exact .of_ok _ S
  | some hit =>
    have hc : s.grid.contains c = true := by
      by_contra hout
      rw [DirectionalSurvey.hit?_of_not_contains (Bool.eq_false_iff.2 hout)] at hhit
      cases hhit
    cases hit with
    | splash source =>
      cases harea : s.area with
      | splash radius =>
        rw [DirectionalSurvey.hit?_of_splash hc harea] at hhit
        obtain ⟨_, hsource, heq⟩ := Option.map_eq_some_iff.1 hhit
        cases heq
        exact Area.checkedCells_refines ⟨.band ⟨0, radius⟩, s.sparesActor⟩
          (fun hs => ⟨(hS hs).1, contains_source h hsource⟩) none
      | placed area => exact .of_ok _ S
      | pattern shape => exact .of_ok _ S
    | selected lane =>
      cases s.area with
      | splash radius => exact .of_ok _ S
      | placed area => exact area.checkedCells_refines (fun hs => ⟨(hS hs).1, hc⟩) _
      | pattern shape => exact .of_ok _ S
    | pattern lane => cases s.area <;> exact .of_ok _ S

end

end Directional

/-! ## Dashes -/

/-- The displacement of a cell from the actor lies below the 32-bit range. -/
def Grid.LiesBeyond (g : Grid) (c : Cell) : Prop :=
  c.row - g.center.row < -0x80000000 ∨ c.col - g.center.col < -0x80000000

instance (g : Grid) (c : Cell) : Decidable (g.LiesBeyond c) :=
  inferInstanceAs (Decidable (_ ∨ _))

namespace Grid

variable {g : Grid} {c : Cell}

/-- The actor stands at a cell with coordinates from zero, so that no displacement of a 32-bit cell
lies above the range. -/
theorem checkedDisplacement_exactly_center (hc : c.IsAddress) :
    (c.checkedDisplacement g.center).Exactly (c.row - g.center.row, c.col - g.center.col)
      (¬ g.LiesBeyond c) := by
  obtain ⟨⟨hr, hr'⟩, hk, hk'⟩ := hc
  have hrow : 0 ≤ g.center.row := Int.natCast_nonneg _
  have hcol : 0 ≤ g.center.col := Int.natCast_nonneg _
  refine (c.checkedDisplacement_exactly g.center).congr ?_
  unfold LiesBeyond
  rw [Number.fits_iff, Number.fits_iff]
  omega

/-- From a cell of the grid every displacement to the centre fits. -/
theorem not_liesBeyond_of_contains (hc : g.contains c = true) : ¬ g.LiesBeyond c := by
  obtain ⟨hr, -, hk, -⟩ := Grid.contains_iff.1 hc
  have hreach := g.reach_lt
  unfold LiesBeyond center
  dsimp only
  omega

/-- One step from a cell of a grid leads to a 32-bit cell. -/
theorem isAddress_step_one (hc : g.contains c = true) (d : Direction) : (c.step d 1).IsAddress := by
  obtain ⟨hr, hr', hk, hk'⟩ := Grid.contains_iff.1 hc
  have hreach := g.reach_lt
  have hside : g.side = 2 * g.reach + 1 := rfl
  unfold Cell.IsAddress Cell.step Cell.shift
  cases d <;> simp only [Direction.row, Direction.col] <;> omega

end Grid

namespace Dash

variable {s : Dash} {board : Board} {d : Direction}

/-! ### Paths -/

/-- The steps of a dash do not depend on where the count of steps is cut off beyond the grid. -/
theorem path_eq_takeWhile (hsteps : 0 ≤ s.maxSteps) :
    s.path board d = ((wholeNumbers 1 s.maxSteps).map (s.grid.center.step d)).takeWhile
      fun c => s.grid.contains c && !board.isBlocked c := by
  obtain ⟨k, hk0, hk, hfree, hlongest, hpath⟩ := exists_path_eq s hsteps board d
  obtain ⟨n, hn⟩ := Int.eq_ofNat_of_zero_le hsteps
  obtain ⟨k', hk', htake, hpass, hgreatest⟩ := exists_takeWhile_wholeNumbers
    (fun j => s.grid.contains (s.grid.center.step d j) &&
      !board.isBlocked (s.grid.center.step d j)) n
  simp only [Bool.and_eq_true, Bool.not_eq_true'] at hpass hgreatest
  have hle : (k' : Int) ≤ k := hlongest k' (by omega) hpass
  have hge := hgreatest k.toNat (by omega) fun j hj hj' => hfree j hj (by omega)
  have hkk' : k = k' := by omega
  rw [hpath, hn, List.takeWhile_map, hkk']
  exact congrArg _ htake.symm

/-- A path ends before it leaves the grid, so none of its steps overflows. -/
theorem checkedPath_eq (board : Board) (d : Direction) (steps : Nat) (k : Int)
    (hstop : s.grid.contains (s.grid.center.step d k) = true) :
    s.checkedPath board d steps (s.grid.center.step d k) =
      .ok (((wholeNumbers (k + 1) (k + steps)).map (s.grid.center.step d)).takeWhile
        fun c => s.grid.contains c && !board.isBlocked c) := by
  induction steps generalizing k with
  | zero =>
    have hnone : wholeNumbers (k + 1) (k + (0 : Nat)) = [] := by simp [wholeNumbers]
    rw [hnone]
    rfl
  | succ steps ih =>
    have hnext : (s.grid.center.step d k).step d 1 = s.grid.center.step d (k + 1) := by
      unfold Cell.step Cell.shift
      rw [Cell.mk.injEq]
      constructor <;> ring
    have hlast : k + ((steps + 1 : Nat) : Int) = k + 1 + steps := by
      push_cast
      ring
    have hstep := ((s.grid.center.step d k).checkedStep_exactly d (by decide)).ok
      (Grid.isAddress_step_one hstop d)
    unfold checkedPath
    rw [hstep, ok_bind, hnext, wholeNumbers_cons (by omega), List.map_cons, List.takeWhile_cons,
      hlast]
    split
    · next hfree =>
      rw [ih (k + 1) (Bool.and_eq_true_iff.1 hfree).1]
      rfl
    · rfl

/-- Where the dashes of a board end, their areas fit. -/
def AreasFit (s : Dash) (board : Board) : Prop :=
  ∀ d ∈ Direction.cardinals, s.area.shape.Fits s.grid (s.lane board d).stop (some d)

/-- A dash lane is computed exactly when the area where the dash ends fits. -/
theorem checkedLane_exactly (hsteps : 0 ≤ s.maxSteps) (board : Board) (d : Direction) :
    (s.checkedLane board d).Exactly (s.lane board d)
      (s.area.shape.Fits s.grid (s.lane board d).stop (some d)) := by
  have hpath : s.checkedPath board d s.maxSteps.toNat s.grid.center = .ok (s.path board d) := by
    have h := checkedPath_eq (s := s) board d s.maxSteps.toNat 0
    rw [Cell.step_zero, zero_add, zero_add, Int.toNat_of_nonneg hsteps,
      ← path_eq_takeWhile hsteps] at h
    exact h s.grid.contains_center
  unfold checkedLane
  rw [hpath, ok_bind]
  exact (s.area.checkedCells_exactly s.grid (s.lane board d).stop (some d)).map _

/-- The lanes of a dash are computed exactly when all these areas fit. -/
theorem checkedLanes_exactly (hsteps : 0 ≤ s.maxSteps) (board : Board) :
    (s.checkedLanes board).Exactly (s.lanes board) (s.AreasFit board) :=
  Exactly.mapM fun d _ => checkedLane_exactly hsteps board d

/-- Dashes end on the grid. -/
theorem areasFit_of_side_le (hside : 5 * s.grid.side ≤ 0x7FFFFFFF) (board : Board) :
    s.AreasFit board := fun d _ =>
  Shape.fits_of_side_le hside contains_stop s.area.shape (some d)

/-! ### The lane of a cell -/

/-- No lane hits a cell off the grid. -/
theorem covering_eq_nil {c : Cell} (hout : s.grid.contains c = false) :
    (s.lanes board).filter (·.hits.contains c) = [] := by
  rw [List.filter_eq_nil_iff]
  intro lane hlane hhits
  obtain ⟨d, -, rfl⟩ := List.mem_map.1 hlane
  exact lists_hits.not_mem hout (List.contains_iff_mem.1 hhits)

/-- The choice among ranked elements is the choice by rank. -/
theorem firstGreatest_ranked {α : Type} (key : α → Int) (xs : List α) :
    (firstGreatest (·.2) (xs.map fun x => (x, key x))).map (·.1) = firstGreatest key xs := by
  rw [firstGreatest_map, Option.map_map]
  exact congrFun Option.map_id _

/-- The dashes that hit a cell are ranked by a single coordinate of its displacement each. -/
theorem mapM_checkedRank_eq {c : Cell} :
    ((s.lanes board).filter (·.hits.contains c)).mapM (fun lane => do
        let rank ← lane.direction.checkedRank (c.row - s.grid.center.row)
          (c.col - s.grid.center.col)
        return (lane, rank)) =
      .ok (((s.lanes board).filter (·.hits.contains c)).map fun lane =>
        (lane, s.grid.fit c lane.direction)) := by
  by_cases hin : s.grid.contains c = true
  · obtain ⟨hr, hr', hk, hk'⟩ := Grid.contains_iff.1 hin
    have hreach := s.grid.reach_lt
    have hside : s.grid.side = 2 * s.grid.reach + 1 := rfl
    have hcenter : s.grid.center = ⟨s.grid.reach, s.grid.reach⟩ := rfl
    refine (Exactly.mapM fun lane hlane => (lane.direction.checkedRank_exactly _ _).map _).ok ?_
    intro lane hlane
    obtain ⟨d, hd, rfl⟩ := List.mem_map.1 (List.mem_of_mem_filter hlane)
    rw [hcenter]
    exact Direction.dotFits_of_mem_cardinals hd (by dsimp only; omega) (by dsimp only; omega)
  · -- No lane hits a cell off the grid, so there is nothing to rank.
    rw [covering_eq_nil (Bool.eq_false_iff.2 hin)]
    rfl

/-- The dash for a cell is found unless the cell lies beyond what can be computed with. -/
theorem checkedLaneFor?_exactly {c : Cell} (hc : c.IsAddress) :
    (s.checkedLaneFor? (s.lanes board) c).Exactly ((DashSurvey.of s board).laneFor? c)
      (¬ s.grid.LiesBeyond c) := by
  have hpure : (DashSurvey.of s board).laneFor? c =
      firstGreatest (fun lane => s.grid.fit c lane.direction)
        ((s.lanes board).filter (·.hits.contains c)) := rfl
  unfold checkedLaneFor?
  by_cases hcenter : c = s.grid.center
  · have hbeyond := s.grid.not_liesBeyond_of_contains (hcenter ▸ s.grid.contains_center)
    have hfit : ∀ lane ∈ (s.lanes board).filter (·.hits.contains c),
        s.grid.fit c lane.direction = 0 := by
      intro lane _
      rw [hcenter]
      exact s.grid.fit_center lane.direction
    rw [hpure, firstGreatest_of_const hfit, if_pos hcenter]
    exact (Exactly.of_ok _).congr (iff_of_true trivial hbeyond)
  · -- The displacement comes first and is the one thing that can overflow: where it does not, the
    -- ranks of the lanes that hit the cell fit.
    dsimp only
    rw [if_neg hcenter, hpure, ← firstGreatest_ranked]
    refine Exactly.congr ((Grid.checkedDisplacement_exactly_center hc).bind fun _ => ?_)
      (and_iff_left trivial)
    dsimp only
    rw [mapM_checkedRank_eq, ok_bind]
    exact .of_ok _

end Dash

namespace CheckedDash

variable {s : Dash} (hsteps : 0 ≤ s.maxSteps) (board : Board) {c : Cell}
include hsteps

/-- Asking for a target overflows only where the lanes do; the place of the cell does not matter. -/
theorem isTargetable_exactly (c : Cell) :
    ((of s board).isTargetable c).Exactly ((DashSurvey.of s board).isTargetable c)
      (s.AreasFit board) :=
  (Dash.checkedLanes_exactly hsteps board).map _

/-- Once the dashes are there, only the displacement of the cell can overflow. -/
theorem areaCells_exactly (hc : c.IsAddress) :
    ((of s board).areaCells c).Exactly ((DashSurvey.of s board).areaCells c)
      (s.AreasFit board ∧ ¬ s.grid.LiesBeyond c) :=
  (Dash.checkedLanes_exactly hsteps board).bind fun _ => (Dash.checkedLaneFor?_exactly hc).map _

end CheckedDash

end Reticle
