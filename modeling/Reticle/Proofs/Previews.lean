import Reticle.Proofs.Choices
import Reticle.Proofs.Lanes

/-!
# Previews of hovered cells

A cell can be a target because an area reaches it. Whether it is one and which area is shown for it
are worked out in different ways: a splash tests the radius against the distance and then lists a
band, a pattern or a dash is found again among those that cover the cell, and a tile rule looks for
the nearest origin. In each of them the area that is shown has the cell in it.
-/

namespace Reticle

/-! ## Bands -/

namespace Grid

/-- A band holds the cells whose distance reaches the lower bound, rounded down, and not beyond the
upper one; the centre is not held off by the upper bound. -/
theorem mem_band_iff {g : Grid} {center c : Cell} {b : Bounds} :
    c ∈ g.band center b ↔ g.contains c = true ∧
      max 0 (Number.floor b.min) ≤ c.manhattan center ∧
      (c.manhattan center = 0 ∨ (Number.exact b.max).isAtLeast (c.manhattan center) = true) := by
  unfold band
  rw [List.mem_filter, mem_cells]
  simp

/-- A distance that is a coordinate is at most the maximum if it is at most the maximum as a
coordinate, which is rounded down and not below zero. -/
theorem mem_band_iff_le_floor {g : Grid} {center c : Cell} {b : Bounds}
    (hc : c.manhattan center ≤ Number.Extended.coordinateMax) :
    c ∈ g.band center b ↔ g.contains c = true ∧
      max 0 (Number.floor b.min) ≤ c.manhattan center ∧
      c.manhattan center ≤ max 0 (Number.floor b.max) := by
  have hnonneg : 0 ≤ c.manhattan center := by
    unfold Cell.manhattan
    omega
  rw [mem_band_iff]
  refine and_congr_right fun _ => and_congr_right fun _ => ?_
  unfold Number.floor
  by_cases hmax : Number.exact b.max = .undefined
  · rw [hmax]
    simp [Number.Extended.isAtLeast, Number.Extended.floor]
    omega
  · rw [← Number.Extended.le_floor_iff hmax
      (by unfold Number.Extended.coordinateMin; omega) hc]
    omega

/-- The band of a splash has the cells whose distance the radius allows. -/
theorem mem_band_splash {g : Grid} {source c : Cell} {radius : Float}
    (hc : g.contains c = true)
    (hradius : (Number.exact radius).isAtLeast (c.manhattan source) = true) :
    c ∈ g.band source (Bounds.nonNegative ⟨0, radius⟩) := by
  have hnonneg : 0 ≤ c.manhattan source := by
    unfold Cell.manhattan
    omega
  have hleast : max 0 (Number.floor (Number.nonNegative 0)) = 0 := by decide +kernel
  have hzero : (Number.exact 0).isAtMost (c.manhattan source) = true := by
    have hexact : Number.exact 0 = .finite 0 := by decide +kernel
    rw [hexact]
    exact decide_eq_true (by exact_mod_cast hnonneg)
  have hkept : Number.nonNegative radius = radius := Number.larger_eq_left hradius hzero
  rw [mem_band_iff]
  unfold Bounds.nonNegative
  dsimp only
  rw [hleast, hkept]
  exact ⟨hc, hnonneg, .inr hradius⟩

end Grid

/-- An area holds the cells of its shape, without the actor if it is spared. -/
theorem Area.mem_cells {a : Area} {grid : Grid} {anchor c : Cell} {facing : Option Direction} :
    c ∈ a.cells grid anchor facing ↔
      c ∈ a.shape.cells grid anchor facing ∧ ¬ (a.sparesActor = true ∧ c = grid.center) := by
  unfold Area.cells
  cases a.sparesActor <;> simp

/-! ## Scenarios -/

/-- Whether a target is one because an area reaches it: in a directional scenario whose area is not
placed around the selected cell, on a dash, and off the legal origins of a tile rule. -/
def Scenario.ReachesByArea (s : Scenario) (board : Board) (c : Cell) : Prop :=
  match s with
  | .selfCast _ => False
  | .tile t => t.isOrigin board c = false
  | .directional s => ∀ area, s.area ≠ .placed area
  | .dash _ => True

/-- A cell within the radius of a source that can be selected is in the splash around it. -/
theorem DirectionalSurvey.mem_areaCells_of_splash {s : DirectionalSurvey} {c : Cell}
    (hc : s.scenario.grid.contains c = true) {radius : Float}
    (harea : s.scenario.area = .splash radius) (htarget : s.isTargetable c = true) :
    c ∈ s.areaCells c := by
  unfold isTargetable at htarget
  rw [hit?_of_splash hc harea, Option.isSome_map] at htarget
  obtain ⟨source, hsource⟩ := Option.isSome_iff_exists.1 htarget
  obtain ⟨hspared, -, hradius⟩ := of_splashSource? hsource
  rw [areaCells_of_splash hc harea, hsource]
  exact Area.mem_cells.2 ⟨Grid.mem_band_splash hc hradius, hspared⟩

/-- A cell that is hit by a pattern is in the pattern of the lane it chooses. -/
theorem DirectionalSurvey.mem_areaCells_of_pattern {s : DirectionalSurvey} {c : Cell}
    (hc : s.scenario.grid.contains c = true) {shape : Shape}
    (harea : s.scenario.area = .pattern shape) (htarget : s.isTargetable c = true) :
    c ∈ s.areaCells c := by
  unfold isTargetable at htarget
  rw [hit?_of_pattern hc harea, Option.isSome_map] at htarget
  obtain ⟨lane, hlane⟩ := Option.isSome_iff_exists.1 htarget
  obtain ⟨l, -, -, hcovers⟩ := of_bestPattern? hlane
  rw [areaCells_of_pattern hc harea, hlane]
  exact hcovers

/-- Every target of a dash lies in its own area. -/
theorem DashSurvey.mem_areaCells {s : DashSurvey} {c : Cell} (htarget : s.isTargetable c = true) :
    c ∈ s.areaCells c := by
  rw [← isSome_laneFor?] at htarget
  obtain ⟨lane, hlane⟩ := Option.isSome_iff_exists.1 htarget
  unfold areaCells
  rw [hlane]
  exact (of_laneFor? hlane).2

/-- A target that is no legal origin is in the area of the nearest origin that reaches it. -/
theorem TileSurvey.mem_areaCells {s : TileSurvey} {c : Cell}
    (horigin : s.tile.isOrigin s.board c = false) (htarget : s.isTargetable c = true) :
    c ∈ s.areaCells c := by
  unfold isTargetable at htarget
  rw [horigin, Bool.false_or] at htarget
  obtain ⟨entry, hentry⟩ := Option.isSome_iff_exists.1 htarget
  unfold areaCells
  rw [if_neg (Bool.eq_false_iff.1 horigin), hentry]
  exact (mem_of_nearest? hentry).2

/-- A cell that is a target because an area reaches it is in the area that is shown for it. -/
theorem Scenario.mem_areaCells_of_reachesByArea {s : Scenario} {board : Board} {c : Cell}
    (htarget : s.isTargetable board c = true) (hreaches : s.ReachesByArea board c) :
    c ∈ s.areaCells board c := by
  cases s with
  | selfCast s => exact hreaches.elim
  | tile t => exact TileSurvey.mem_areaCells hreaches htarget
  | dash s => exact DashSurvey.mem_areaCells htarget
  | directional s =>
    have hc : (DirectionalSurvey.of s board).scenario.grid.contains c = true := by
      by_contra hout
      have htarget' : ((DirectionalSurvey.of s board).hit? c).isSome = true := htarget
      rw [DirectionalSurvey.hit?_of_not_contains (Bool.eq_false_iff.2 hout)] at htarget'
      exact Bool.noConfusion htarget'
    cases harea : s.area with
    | splash radius => exact DirectionalSurvey.mem_areaCells_of_splash hc harea htarget
    | placed area => exact absurd harea (hreaches area)
    | pattern shape => exact DirectionalSurvey.mem_areaCells_of_pattern hc harea htarget

/-- One or two steps along a direction, with a splash of a tile and a half that spares the actor. -/
def Aiming.smallSplash : Aiming where
  selection := ⟨1, 2⟩
  hasRange := true
  mode := .line
  areaMin := none
  areaMax := none
  areaMinLabel := none
  areaMaxLabel := none
  splash := 1.5
  offsets := []
  turning := true
  sparesActor := true

/-- The cell above the second step to the right is in the splash around that step. -/
theorem Scenario.mem_areaCells_of_reachesByArea_example :
    let s : Scenario := .directional (.ofAiming .smallSplash .direction (.ofSide 7))
    let board : Board := .empty (.ofSide 7)
    s.isTargetable board ⟨2, 5⟩ = true ∧ s.ReachesByArea board ⟨2, 5⟩ ∧
      ⟨2, 5⟩ ∈ s.areaCells board ⟨2, 5⟩ := by
  intro s board
  have htarget : s.isTargetable board ⟨2, 5⟩ = true := by decide +kernel
  have hreaches : s.ReachesByArea board ⟨2, 5⟩ := by
    intro area harea
    have hsplash : Directional.areaOf .smallSplash = .splash 1.5 := if_pos (by decide +kernel)
    have hplaced : Directional.areaOf .smallSplash = .placed area := harea
    rw [hsplash] at hplaced
    cases hplaced
  exact ⟨htarget, hreaches, mem_areaCells_of_reachesByArea htarget hreaches⟩

end Reticle
