import Reticle.Proofs.Lanes
import Reticle.Proofs.Rendering
import Reticle.Proofs.Sightlines

/-!
# Directional rules see their rays only

The cells that can be selected lie on the rays from the actor along the directions of the target
mode, and so do the cells that bar the path to one of them. Two boards with the same obstacles on
the rays are therefore surveyed alike (`Directional.survey_eq`, `Dash.lanes_eq`), and whatever is
read off the survey is the same: targets, the choice among lanes, and areas.
-/

namespace Reticle

/-! ## Rays on the grid -/

namespace Grid

variable {g : Grid} {d : Direction}

/-- A ray does not come back to the grid. -/
theorem contains_step_of_le {j k : Int} (hj : 0 ≤ j) (hjk : j ≤ k)
    (h : g.contains (g.center.step d k) = true) : g.contains (g.center.step d j) = true := by
  rw [contains_iff] at h ⊢
  unfold center Cell.step Cell.shift side at h ⊢
  cases d <;> simp only [Direction.row, Direction.col] at h ⊢ <;> omega

/-- The cells of a line from the actor are cells of its ray, on the grid. -/
theorem exists_step_of_mem_line {b : Bounds} {c : Cell} (h : c ∈ g.line g.center d b) :
    g.contains c = true ∧ ∃ k : Int, 0 ≤ k ∧ c = g.center.step d k := by
  obtain ⟨hsteps, hc⟩ := mem_clip.1 h
  obtain ⟨k, hk, rfl⟩ := List.mem_map.1 hsteps
  have hlimit : 0 ≤ g.walkLimit := by
    unfold walkLimit
    omega
  exact ⟨hc, k, Steps.nonneg_of_mem_atMost hlimit hk, rfl⟩

end Grid

/-- Two boards of one grid with the same obstacles on the rays from the actor in some directions. -/
structure Board.AgreeOnRays (grid : Grid) (directions : List Direction) (b b' : Board) : Prop where
  grid_left : b.grid = grid
  grid_right : b'.grid = grid
  rays : ∀ d ∈ directions, ∀ k : Int, 1 ≤ k → grid.contains (grid.center.step d k) = true →
    (grid.center.step d k ∈ b.obstacles ↔ grid.center.step d k ∈ b'.obstacles)

namespace Board.AgreeOnRays

variable {grid : Grid} {directions : List Direction} {b b' : Board}
  (h : AgreeOnRays grid directions b b') {d : Direction} (hd : d ∈ directions)
include h hd

/-- Along a ray the boards have the same obstacles. -/
theorem isBlocked_eq {k : Int} (hk : 1 ≤ k)
    (hgrid : grid.contains (grid.center.step d k) = true) :
    b.isBlocked (grid.center.step d k) = b'.isBlocked (grid.center.step d k) := by
  rw [Bool.eq_iff_iff, isBlocked_iff, isBlocked_iff]
  exact h.rays d hd k hk hgrid

/-- What bars the path to a cell of a ray lies on the ray. -/
theorem pathClear_eq {k : Int} (hk : 0 ≤ k)
    (hgrid : grid.contains (grid.center.step d k) = true) :
    b.pathClear (grid.center.step d k) = b'.pathClear (grid.center.step d k) := by
  refine pathClear_congr (h.grid_left.trans h.grid_right.symm) fun c hbars => ?_
  rw [h.grid_left] at hbars
  obtain ⟨n, hn, hnk, rfl⟩ := hbars.exists_step hk
  exact h.rays d hd n hn (Grid.contains_step_of_le (by omega) hnk.le hgrid)

/-- The cells in view along a ray are the same on both boards. -/
theorem filter_line_eq (bounds : Bounds) :
    (grid.line grid.center d bounds).filter b.pathClear =
      (grid.line grid.center d bounds).filter b'.pathClear := by
  refine List.filter_congr fun c hc => ?_
  obtain ⟨hgrid, k, hk, rfl⟩ := Grid.exists_step_of_mem_line hc
  exact h.pathClear_eq hd hk hgrid

end Board.AgreeOnRays

/-! ## Surveys -/

section Surveys

variable {grid : Grid} {b b' : Board}

/-- A directional scenario cannot tell the boards apart. -/
theorem Directional.survey_eq {mode : TargetMode}
    (h : Board.AgreeOnRays grid mode.directions b b') (a : Aiming) :
    DirectionalSurvey.of (ofAiming a mode grid) b =
      DirectionalSurvey.of (ofAiming a mode grid) b' := by
  unfold DirectionalSurvey.of
  congr 1
  refine List.map_congr_left fun lane hlane => ?_
  obtain ⟨d, hd, rfl⟩ := List.mem_map.1 hlane
  exact congrArg _ (h.filter_line_eq hd _)

/-- A dash only meets cells of its ray, and stops at the same cell if those are blocked alike. -/
theorem Dash.path_congr {s : Dash} {d : Direction}
    (h : ∀ k : Int, 1 ≤ k → s.grid.contains (s.grid.center.step d k) = true →
      b.isBlocked (s.grid.center.step d k) = b'.isBlocked (s.grid.center.step d k)) :
    s.path b d = s.path b' d := by
  have hgoes : ∀ k : Int, 1 ≤ k →
      (s.grid.contains (s.grid.center.step d k) && !b.isBlocked (s.grid.center.step d k)) =
        (s.grid.contains (s.grid.center.step d k) && !b'.isBlocked (s.grid.center.step d k)) := by
    intro k hk
    cases hgrid : s.grid.contains (s.grid.center.step d k) with
    | false => rfl
    | true => rw [h k hk hgrid]
  have hsteps : ∀ steps : List Int, (∀ k ∈ steps, 1 ≤ k) →
      (steps.map (s.grid.center.step d)).takeWhile
          (fun c => s.grid.contains c && !b.isBlocked c) =
        (steps.map (s.grid.center.step d)).takeWhile
          (fun c => s.grid.contains c && !b'.isBlocked c) := by
    intro steps hpos
    induction steps with
    | nil => rfl
    | cons k steps ih =>
      obtain ⟨hk, hrest⟩ := List.forall_mem_cons.1 hpos
      rw [List.map_cons, List.takeWhile_cons, List.takeWhile_cons, hgoes k hk, ih hrest]
  exact hsteps _ fun k hk => (mem_wholeNumbers.1 hk).1

/-- Nor can the lanes of a dash. -/
theorem Dash.lanes_eq (h : Board.AgreeOnRays grid Direction.cardinals b b') (a : Aiming) :
    (ofAiming a grid).lanes b = (ofAiming a grid).lanes b' := by
  refine List.map_congr_left fun d hd => ?_
  unfold lane
  rw [Dash.path_congr fun k hk hgrid => h.isBlocked_eq hd hk hgrid]

end Surveys

/-- The scenario of a directional rule is surveyed alike on boards that agree on its rays. -/
theorem Scenario.ReadFrom.survey_eq {given : Sliders} {rule : Rule} {grid : Grid}
    {mode : TargetMode} {s : Scenario} (h : s.ReadFrom given rule grid mode)
    (hmode : mode = .direction ∨ mode = .direction8) {b b' : Board}
    (hrays : Board.AgreeOnRays grid mode.directions b b') : s.survey b = s.survey b' := by
  obtain ⟨a, -, -, rfl | ⟨happlies, rfl⟩⟩ := h.aimed hmode
  · exact congrArg Survey.directional (Directional.survey_eq hrays a)
  · have hdirection : mode = .direction := by
      unfold Dash.applies at happlies
      exact of_decide_eq_true (Bool.and_eq_true_iff.1 (Bool.and_eq_true_iff.1 happlies).1).1
    rw [hdirection] at hrays
    have hlanes : DashSurvey.of (.ofAiming a grid) b = DashSurvey.of (.ofAiming a grid) b' := by
      unfold DashSurvey.of
      rw [Dash.lanes_eq hrays]
    exact congrArg Survey.dash hlanes

/-- Directional rules and dashes see obstacles on their own rays only: on two boards of the grid
whose obstacles agree on the cells that lie one or more steps from the actor along a direction of
the mode, every cell is a target on both or on none and has the same area. -/
theorem render_sees_rays_only {text : String} {grid : Grid} {sliders after : Sliders}
    {options : RenderOptions} {rendered : Rendered}
    (h : render text grid sliders options = (.ready rendered, after))
    (hmode : rendered.mode = .direction ∨ rendered.mode = .direction8) {b b' : Board}
    (hrays : Board.AgreeOnRays grid rendered.mode.directions b b') (c : Cell) :
    rendered.scenario.isTargetable b c = rendered.scenario.isTargetable b' c ∧
      rendered.scenario.areaCells b c = rendered.scenario.areaCells b' c := by
  have hsurvey := (readFrom_of_render h).survey_eq hmode hrays
  unfold Scenario.isTargetable Scenario.areaCells
  rw [hsurvey]
  exact ⟨rfl, rfl⟩

/-- A splash along the eight directions. -/
def splashRule : String :=
  "target_mode direction8\nmax_range 2\naoe_radius 1"

/-- An obstacle a knight's move away from the actor changes no answer. -/
theorem render_sees_rays_only_example :
    ∃ rendered after, render splashRule (.ofSide 7) .empty .standard = (.ready rendered, after) ∧
      ∀ c, rendered.scenario.isTargetable ⟨.ofSide 7, CellSet.empty.insert ⟨2, 1⟩⟩ c =
          rendered.scenario.isTargetable (.empty (.ofSide 7)) c ∧
        rendered.scenario.areaCells ⟨.ofSide 7, CellSet.empty.insert ⟨2, 1⟩⟩ c =
          rendered.scenario.areaCells (.empty (.ofSide 7)) c := by
  have hblank : ¬ Text.isBlankText splashRule = true := by decide +kernel
  have hmode : (Rule.ofText splashRule).targetMode = .ok .direction8 := by decide +kernel
  obtain ⟨rendered, after, hready, hmode', -⟩ :=
    exists_render_of_targetMode hblank hmode (.ofSide 7) .empty .standard
  refine ⟨rendered, after, hready, fun c => ?_⟩
  refine render_sees_rays_only hready (.inr hmode') ⟨rfl, rfl, ?_⟩ c
  intro d hd k hk hgrid
  have hoff : (Grid.ofSide 7).center.step d k ≠ ⟨2, 1⟩ := by
    have hcenter : (Grid.ofSide 7).center = ⟨3, 3⟩ := by decide
    rw [hcenter]
    simp only [Cell.step, Cell.shift, ne_eq, Cell.mk.injEq]
    cases d <;> simp only [Direction.row, Direction.col] <;> omega
  show (Grid.ofSide 7).center.step d k ∈ CellSet.empty.insert ⟨2, 1⟩ ↔
    (Grid.ofSide 7).center.step d k ∈ CellSet.empty
  rw [CellSet.mem_insert]
  exact or_iff_right hoff

end Reticle
