import Reticle.Proofs.Answers
import Reticle.Proofs.CheckedAreas
import Reticle.Proofs.CheckedLines
import Reticle.Scenario.Checked

/-!
# Tile queries in 32 bits

Self-cast and tile rules compute with a cell only once it is known to lie on the grid. What they come
to are the answers of the plain queries, and on grids of at most `2 ^ 28` cells a side they do come
to them. The checked survey of a tile rule is another one than the plain survey: not every origin
with its area, but for every covered cell the nearest origin, kept up to date while the areas are
gone through (`Tile.lookup_nearest`).
-/

namespace Reticle

open Checked

/-! ## Paths -/

/-- Lines of sight to moderate cells come out alike with 32-bit numbers. -/
theorem Board.checkedPathClear_refines (b : Board) {target : Cell} {S : Prop}
    (hS : S → b.grid.side ≤ 0x10000000 ∧ target.Moderate) :
    (b.checkedPathClear target).Refines (b.pathClear target) S := by
  have hline := checkedLineCells_refines b.grid.center target (S := S) fun hs =>
    ⟨Grid.moderate_of_contains (hS hs).1 b.grid.contains_center, (hS hs).2⟩
  exact hline.map _

/-! ## Self-cast rules -/

/-- A self-cast rule computes an area around the actor only. -/
theorem SelfCast.checkedAreaCells_refines (s : SelfCast) (c : Cell) {S : Prop}
    (hS : S → s.grid.side ≤ 0x10000000) :
    (s.checkedAreaCells c).Refines (s.areaCells c) S := by
  unfold checkedAreaCells areaCells
  refine .ite (fun htarget => ?_) fun _ => .of_ok [] S
  obtain rfl : c = s.grid.center := eq_of_beq htarget
  exact s.area.checkedCells_refines (fun hs => ⟨hS hs, s.grid.contains_center⟩) none

/-! ## Tile rules -/

/-- No cell of a grid is too far from the actor for its distance to be a 32-bit number. -/
theorem Grid.manhattan_center_le {g : Grid} {c : Cell} (hc : g.contains c = true) :
    c.manhattan g.center ≤ 0x7FFFFFFF := by
  obtain ⟨hr, hr', hk, hk'⟩ := Grid.contains_iff.1 hc
  have hreach := g.reach_lt
  have hside : g.side = 2 * g.reach + 1 := rfl
  have hcenter : g.center = ⟨g.reach, g.reach⟩ := rfl
  rw [hcenter]
  unfold Cell.manhattan
  dsimp only
  omega

/-- The distances and displacements that a range compares fit if the distance of the cells does. -/
theorem TileRange.checkedContains_eq (r : TileRange) {center c : Cell}
    (h : c.manhattan center ≤ 0x7FFFFFFF) :
    r.checkedContains center c = .ok (r.contains center c) := by
  have hmanhattan := (c.checkedManhattan_exactly center).ok h
  have hchebyshev := (c.checkedChebyshev_exactly center).ok (by
    unfold Cell.manhattan at h
    unfold Cell.chebyshev
    omega)
  unfold checkedContains contains
  cases r with
  | standard bounds =>
    dsimp only
    rw [hmanhattan]
    rfl
  | square bounds =>
    dsimp only
    rw [hchebyshev]
    rfl
  | lines directions bounds =>
    dsimp only
    have hdisplacement := (c.checkedDisplacement_exactly center).ok (Cell.displacement_fits h)
    unfold Cell.manhattan at h
    have hrows := (fit_exactly ((c.row - center.row).natAbs : Int)).ok (by
      rw [Number.fits_iff]
      omega)
    have hcols := (fit_exactly ((c.col - center.col).natAbs : Int)).ok (by
      rw [Number.fits_iff]
      omega)
    have hdiagonal : ((c.row - center.row).natAbs == (c.col - center.col).natAbs) =
        (((c.row - center.row).natAbs : Int) == (c.col - center.col).natAbs) := by
      rw [Bool.eq_iff_iff, beq_iff_eq, beq_iff_eq, Int.ofNat_inj]
    split
    · rfl
    · rw [hdisplacement, ok_bind]
      dsimp only
      rw [hrows, ok_bind, hcols, ok_bind, hchebyshev, ok_bind, hdiagonal]
      rfl
  | custom cells => rfl

namespace Tile

variable {t : Tile} {board : Board}

/-- The footprint is placed alike with 32-bit numbers. -/
theorem checkedFootprintFits_refines (t : Tile) (board : Board) {c : Cell} {S : Prop}
    (hS : S → c.Moderate) :
    (t.checkedFootprintFits board c).Refines (t.footprintFits board c) S := by
  let parts : List (Int × Int) := [(0, 0), (0, 1), (1, 0), (1, 1)]
  have hparts : t.footprintFits board c = parts.all fun part =>
      t.grid.contains (c.shift part.1 part.2) && !board.isBlocked (c.shift part.1 part.2) := by
    have hzero : c.shift 0 0 = c := by simp [Cell.shift]
    show _ = [(0, 0), (0, 1), (1, 0), (1, 1)].all _
    simp only [footprintFits, List.all_cons, List.all_nil, hzero]
  rw [hparts]
  refine Refines.allM fun part hpart => ?_
  refine Refines.map _ ((c.checkedShift_exactly part.1 part.2).refines fun hs => ?_)
  obtain ⟨hr, hk⟩ := hS hs
  have hstep : 0 ≤ part.1 ∧ part.1 ≤ 1 ∧ 0 ≤ part.2 ∧ part.2 ≤ 1 := by
    have hall : ∀ p ∈ parts, 0 ≤ p.1 ∧ p.1 ≤ 1 ∧ 0 ≤ p.2 ∧ p.2 ≤ 1 := by decide
    exact hall part hpart
  unfold Cell.IsAddress Cell.shift
  dsimp only
  omega

/-- What the restrictions come to: each asks something of a cell if it is listed, and two of them ask
for the same line of sight. -/
theorem all_allows_iff (t : Tile) (board : Board) (c : Cell) :
    t.restrictions.all (t.allows board c) = true ↔
      (Restriction.mustMove ∈ t.restrictions → c ≠ t.grid.center) ∧
        (requiresLine t.restrictions = true → board.pathClear c = true) ∧
        (Restriction.fitTwoByTwo ∈ t.restrictions → t.footprintFits board c = true) ∧
        (Restriction.mustBeMoveable ∈ t.restrictions → board.isBlocked c = false) := by
  rw [List.all_eq_true]
  constructor
  · intro h
    refine ⟨fun hmem => bne_iff_ne.1 (h _ hmem), fun hline => ?_, h _, fun hmem => ?_⟩
    · rcases Bool.or_eq_true_iff.1 hline with hmem | hmem
      · exact h _ (List.contains_iff_mem.1 hmem)
      · exact h _ (List.contains_iff_mem.1 hmem)
    · simpa [allows] using h _ hmem
  · rintro ⟨hmove, hline, hfit, hfree⟩ restriction hmem
    have hcontains := List.contains_iff_mem.2 hmem
    cases restriction with
    | mustMove => exact bne_iff_ne.2 (hmove hmem)
    | straightShot => exact hline (Bool.or_eq_true_iff.2 (.inr hcontains))
    | lineOfSight => exact hline (Bool.or_eq_true_iff.2 (.inl hcontains))
    | fitTwoByTwo => exact hfit hmem
    | mustBeMoveable => simpa [allows] using hfree hmem

/-- What a tile rule asks of a cell, in the order in which it is asked. -/
theorem isOrigin_eq (t : Tile) (board : Board) (c : Cell) :
    t.isOrigin board c =
      (t.grid.contains c && !(t.restrictions.contains .mustMove && c == t.grid.center) &&
        (t.range.contains t.grid.center c &&
          ((if requiresLine t.restrictions then board.pathClear c else true) &&
            ((if t.restrictions.contains .fitTwoByTwo then t.footprintFits board c else true) &&
              !(t.restrictions.contains .mustBeMoveable && board.isBlocked c))))) := by
  rw [Bool.eq_iff_iff]
  unfold isOrigin
  rw [Bool.and_eq_true, t.all_allows_iff board c]
  have hasked : ∀ p q : Bool, (if p = true then q else true) = true ↔ (p = true → q = true) := by
    decide
  have hbarred : ∀ p q : Bool, (!(p && q)) = true ↔ (p = true → q = false) := by decide
  simp only [Bool.and_eq_true, hasked, hbarred, beq_eq_false_iff_ne]
  simp only [List.contains_iff_mem]
  constructor
  · rintro ⟨⟨hin, hrange⟩, hmove, hline, hfit, hfree⟩
    exact ⟨⟨hin, hmove⟩, hrange, hline, hfit, hfree⟩
  · rintro ⟨⟨hin, hmove⟩, hrange, hline, hfit, hfree⟩
    exact ⟨⟨hin, hrange⟩, hmove, hline, hfit, hfree⟩

/-- A range compares numbers only for cells on the grid. -/
theorem checkedIsOrigin_refines (t : Tile) (board : Board) (c : Cell) {S : Prop}
    (hS : S → t.grid.side ≤ 0x10000000 ∧ board.grid.side ≤ 0x10000000) :
    (t.checkedIsOrigin board c).Refines (t.isOrigin board c) S := by
  rw [isOrigin_eq]
  refine (Refines.of_ok _ S).and fun hin => ?_
  obtain ⟨hc, -⟩ := Bool.and_eq_true_iff.1 hin
  have hmoderate : S → c.Moderate := fun hs => Grid.moderate_of_contains (hS hs).1 hc
  have hrange : (t.range.checkedContains t.grid.center c).Refines
      (t.range.contains t.grid.center c) S := by
    rw [t.range.checkedContains_eq (Grid.manhattan_center_le hc)]
    exact .of_ok _ S
  have hline := board.checkedPathClear_refines fun hs => ⟨(hS hs).2, hmoderate hs⟩
  have hfit := t.checkedFootprintFits_refines board hmoderate
  exact hrange.and fun _ => (Refines.ite (fun _ => hline) fun _ => .of_ok true S).and fun _ =>
    (Refines.ite (fun _ => hfit) fun _ => .of_ok true S).and fun _ => .of_ok _ S

/-- A cell out of range is no origin, and its path is not looked at. -/
theorem checkedIsOrigin_eq_false (t : Tile) (board : Board) {c : Cell}
    (hc : ¬ (t.grid.contains c = true ∧ t.range.contains t.grid.center c = true)) :
    t.checkedIsOrigin board c = .ok false := by
  unfold checkedIsOrigin
  dsimp only
  by_cases hin : t.grid.contains c = true
  · rw [t.range.checkedContains_eq (Grid.manhattan_center_le hin), hin,
      Bool.eq_false_iff.2 fun hrange => hc ⟨hin, hrange⟩]
    cases t.restrictions.contains .mustMove && c == t.grid.center <;> rfl
  · rw [Bool.eq_false_iff.2 hin]
    rfl

/-- The area of an origin faces away from the actor. -/
theorem checkedAreaFrom_eq (t : Tile) {origin : Cell} (horigin : t.grid.contains origin = true) :
    t.checkedAreaFrom origin =
      t.area.checkedCells t.grid origin (t.grid.center.directionTo origin) := by
  unfold checkedAreaFrom
  rw [(origin.checkedDisplacement_exactly t.grid.center).ok
    (Cell.displacement_fits (Grid.manhattan_center_le horigin))]
  rfl

/-- A legal origin lies on the grid, and so its area can be computed. -/
theorem checkedAreaFrom_refines (t : Tile) {origin : Cell} (horigin : t.grid.contains origin = true)
    {S : Prop} (hS : S → t.grid.side ≤ 0x10000000) :
    (t.checkedAreaFrom origin).Refines (t.areaFrom origin) S := by
  rw [t.checkedAreaFrom_eq horigin]
  exact t.area.checkedCells_refines (fun hs => ⟨hS hs, horigin⟩) _

/-! ### The nearest origins -/

/-- `checkedNote` with numbers of any size. -/
def note (origin : Cell) (nearest : List (Cell × Cell)) (covered : Cell) : List (Cell × Cell) :=
  match nearest.lookup covered with
  | some best =>
    if covered.manhattan origin < covered.manhattan best then (covered, origin) :: nearest
    else nearest
  | none => (covered, origin) :: nearest

/-- `checkedNearest` with numbers of any size. -/
def nearest (t : Tile) (board : Board) : List (Cell × Cell) :=
  (t.grid.cells.filter (t.isOrigin board)).foldl
    (fun nearest origin => (t.areaFrom origin).foldl (note origin) nearest) []

/-- The origin is kept for the cell unless one that is as near is there already. -/
theorem lookup_note (origin : Cell) (nearest : List (Cell × Cell)) (covered c : Cell) :
    (note origin nearest covered).lookup c =
      if c = covered ∧ ∀ best ∈ nearest.lookup c, c.manhattan origin < c.manhattan best then
        some origin
      else nearest.lookup c := by
  by_cases hc : c = covered
  · subst hc
    unfold note
    cases hbest : nearest.lookup c with
    | none => simp
    | some best =>
      by_cases hnearer : c.manhattan origin < c.manhattan best
      · simp [hnearer]
      · simp [hnearer, hbest]
  · have hother : ((covered, origin) :: nearest).lookup c = nearest.lookup c := by
      rw [List.lookup_cons, beq_eq_false_iff_ne.2 hc]
    rw [if_neg fun h => hc h.1]
    unfold note
    split
    · split
      · exact hother
      · rfl
    · exact hother

/-- Once an area is gone through, its origin is kept for all its cells that have none as near. -/
theorem lookup_foldl_note (origin : Cell) (cells : List Cell) (nearest : List (Cell × Cell))
    (c : Cell) :
    (cells.foldl (note origin) nearest).lookup c =
      if c ∈ cells ∧ ∀ best ∈ nearest.lookup c, c.manhattan origin < c.manhattan best then
        some origin
      else nearest.lookup c := by
  induction cells generalizing nearest with
  | nil => simp
  | cons covered cells ih =>
    rw [List.foldl_cons, ih]
    by_cases hnearer : ∀ best ∈ nearest.lookup c, c.manhattan origin < c.manhattan best
    · by_cases hc : c = covered
      · have hnoted : (note origin nearest covered).lookup c = some origin := by
          rw [lookup_note, if_pos ⟨hc, hnearer⟩]
        rw [hnoted, ite_self, if_pos ⟨hc ▸ List.mem_cons_self, hnearer⟩]
      · have hnoted : (note origin nearest covered).lookup c = nearest.lookup c := by
          rw [lookup_note, if_neg fun h => hc h.1]
        rw [hnoted]
        simp only [List.mem_cons, hc, false_or]
    · have hnoted : (note origin nearest covered).lookup c = nearest.lookup c := by
        rw [lookup_note, if_neg fun h => hnearer h.2]
      rw [hnoted, if_neg fun h => hnearer h.2, if_neg fun h => hnearer h.2]

/-- The origin that is kept for a cell is the one that the search finds. -/
theorem lookup_nearest (t : Tile) (board : Board) (c : Cell) :
    (t.nearest board).lookup c =
      ((TileSurvey.mk t board (t.reach board)).nearest? c).map (·.1) := by
  unfold nearest TileSurvey.nearest? reach
  rw [List.foldl_map]
  -- Both go through the legal origins in the same order: one keeps an origin for every covered cell,
  -- the other the best for this cell.
  refine List.foldl_rel (r := fun (kept : List (Cell × Cell)) (best : Option (Cell × List Cell)) =>
    kept.lookup c = best.map (·.1)) rfl ?_
  intro origin _ kept best hkept
  have htakes : (c ∈ t.areaFrom origin ∧
        ∀ b ∈ best.map (·.1), c.manhattan origin < c.manhattan b) ↔
      ((t.areaFrom origin).contains c &&
        best.all fun b => c.manhattan origin < c.manhattan b.1) = true := by
    cases best <;> simp
  rw [lookup_foldl_note, hkept]
  by_cases h : c ∈ t.areaFrom origin ∧
      ∀ b ∈ best.map (·.1), c.manhattan origin < c.manhattan b
  · rw [if_pos h, if_pos (htakes.1 h)]
    rfl
  · rw [if_neg h, if_neg (fun hkeeps => h (htakes.2 hkeeps))]

/-- All cells in the list are cells of the grid. -/
def OnGrid (t : Tile) (nearest : List (Cell × Cell)) : Prop :=
  ∀ entry ∈ nearest, t.grid.contains entry.2 = true

section

variable {S : Prop} (hS : S → t.grid.side ≤ 0x10000000)
include hS

/-- Distances are compared between cells of the grid only. -/
theorem checkedNote_refines {origin covered : Cell} (horigin : t.grid.contains origin = true)
    (hcovered : t.grid.contains covered = true) {nearest : List (Cell × Cell)}
    (hnearest : t.OnGrid nearest) :
    (checkedNote origin nearest covered).Refines (note origin nearest covered) S ∧
      t.OnGrid (note origin nearest covered) := by
  have hnoted : t.OnGrid ((covered, origin) :: nearest) :=
    List.forall_mem_cons.2 ⟨horigin, hnearest⟩
  unfold checkedNote note
  cases hbest : nearest.lookup covered with
  | none => exact ⟨.of_ok _ S, hnoted⟩
  | some best =>
    obtain ⟨before, after, rfl, -⟩ := List.lookup_eq_some_iff.1 hbest
    have hbestin : t.grid.contains best = true :=
      hnearest (covered, best) (List.mem_append_right _ List.mem_cons_self)
    have hdistance : ∀ other, t.grid.contains other = true →
        (covered.checkedManhattan other).Refines (covered.manhattan other) S := fun other hother =>
      (covered.checkedManhattan_exactly other).refines fun hs =>
        (Grid.moderate_of_contains (hS hs) hcovered).manhattan_le
          (Grid.moderate_of_contains (hS hs) hother)
    refine ⟨(hdistance origin horigin).bind ((hdistance best hbestin).map _), ?_⟩
    dsimp only
    split
    · exact hnoted
    · exact hnearest

end

/-- The nearest origins are found by way of legal origins and of cells that their areas cover. -/
theorem checkedNearest_refines (t : Tile) (board : Board) {S : Prop}
    (hS : S → t.grid.side ≤ 0x10000000 ∧ board.grid.side ≤ 0x10000000) :
    (t.checkedNearest board).Refines (t.nearest board) S := by
  have horigins := Refines.filterM (fun c (_ : c ∈ t.grid.cells) =>
    t.checkedIsOrigin_refines board c hS)
  refine horigins.bind (Refines.foldlM t.OnGrid ?_ ?_).1
  · intro nearest hnearest origin horigin
    obtain ⟨hin, hlegal⟩ := List.mem_filter.1 horigin
    have hcovered : ((t.areaFrom origin).foldlM (checkedNote origin) nearest).Refines
        ((t.areaFrom origin).foldl (note origin) nearest) S ∧
          t.OnGrid ((t.areaFrom origin).foldl (note origin) nearest) :=
      Refines.foldlM t.OnGrid (fun nearest hnearest c hc => checkedNote_refines
        (fun hs => (hS hs).1) (Grid.mem_cells.1 hin) ((lists_areaFrom hlegal).inside c hc) hnearest)
        hnearest
    exact ⟨(t.checkedAreaFrom_refines (Grid.mem_cells.1 hin) fun hs => (hS hs).1).bind hcovered.1,
      hcovered.2⟩
  · exact List.forall_mem_nil _

end Tile

/-! ### Answers -/

namespace CheckedTile

variable (t : Tile) (board : Board) (c : Cell) {S : Prop}
  (hS : S → t.grid.side ≤ 0x10000000 ∧ board.grid.side ≤ 0x10000000)
include hS

/-- The origin that is noted for a cell is the nearest one. -/
theorem nearest_refines :
    ∃ nearest, (of t board).nearest.Refines nearest S ∧
      nearest.lookup c = ((TileSurvey.of t board).nearest? c).map (·.1) := by
  unfold of TileSurvey.of
  cases t.includesArea with
  | true => exact ⟨t.nearest board, t.checkedNearest_refines board hS, t.lookup_nearest board c⟩
  | false => exact ⟨[], .of_ok [] S, rfl⟩

/-- The targets of a tile rule are the same with 32-bit numbers. -/
theorem isTargetable_refines :
    ((of t board).isTargetable c).Refines ((TileSurvey.of t board).isTargetable c) S := by
  obtain ⟨nearest, hnearest, hlookup⟩ := nearest_refines t board c hS
  have horigin := t.checkedIsOrigin_refines board c hS
  refine horigin.bind ?_
  show Refines _ (t.isOrigin board c || ((TileSurvey.of t board).nearest? c).isSome) S
  cases t.isOrigin board c with
  | true => exact .of_ok true S
  | false =>
    have hfound := hnearest.map fun nearest => (nearest.lookup c).isSome
    rw [hlookup, Option.isSome_map] at hfound
    exact hfound

/-- The areas of a tile rule are the same with 32-bit numbers. -/
theorem areaCells_refines :
    ((of t board).areaCells c).Refines ((TileSurvey.of t board).areaCells c) S := by
  obtain ⟨nearest, hnearest, hlookup⟩ := nearest_refines t board c hS
  have harea : ∀ {origin : Cell}, t.isOrigin board origin = true →
      (t.checkedAreaFrom origin).Refines (t.areaFrom origin) S := fun horigin =>
    t.checkedAreaFrom_refines (Tile.contains_of_isOrigin horigin) fun hs => (hS hs).1
  refine (t.checkedIsOrigin_refines board c hS).bind ?_
  refine .ite (fun horigin => harea horigin) fun _ => hnearest.bind ?_
  rw [hlookup]
  cases hfound : (TileSurvey.of t board).nearest? c with
  | none => exact .of_ok [] S
  | some entry =>
    obtain ⟨origin, horigin, rfl⟩ := Tile.exists_of_mem_reach (TileSurvey.mem_of_nearest? hfound).1
    exact harea horigin

end CheckedTile

end Reticle
