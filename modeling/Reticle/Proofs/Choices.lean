import Reticle.Scenario.Basic

/-!
# What a hovered cell chooses

Hovering a cell chooses an origin, a source or a lane among several: the first that covers the cell
or the best of those that do. Whatever is chosen was among the candidates and covers the cell, and
something is chosen as soon as there is a candidate.
-/

namespace Reticle

/-! ## Folds that keep one element -/

/-- A fold that at each element keeps its choice or takes the element ends with its first choice or
with one of the elements. -/
theorem foldl_choice {α : Type} {f : Option α → α → Option α} {P : α → Prop}
    (hf : ∀ best x y, f best x = some y → best = some y ∨ y = x ∧ P x) {xs : List α}
    {start : Option α} {y : α} (h : xs.foldl f start = some y) :
    start = some y ∨ y ∈ xs ∧ P y := by
  induction xs generalizing start with
  | nil => exact .inl h
  | cons x xs ih =>
    rcases ih h with hstart | ⟨hmem, hy⟩
    · rcases hf start x y hstart with hkept | ⟨rfl, hx⟩
      · exact .inl hkept
      · exact .inr ⟨List.mem_cons_self, hx⟩
    · exact .inr ⟨List.mem_cons_of_mem x hmem, hy⟩

/-- A fold that never loses its choice ends with one. -/
theorem isSome_foldl_choice {α : Type} {f : Option α → α → Option α}
    (hf : ∀ b x, (f (some b) x).isSome = true) {xs : List α} {start : Option α}
    (h : start.isSome = true) : (xs.foldl f start).isSome = true := by
  induction xs generalizing start with
  | nil => exact h
  | cons x xs ih =>
    obtain ⟨b, rfl⟩ := Option.isSome_iff_exists.1 h
    exact ih (hf b x)

section FirstGreatest

variable {α : Type} {key : α → Int} {xs : List α}

/-- What is chosen is one of the candidates. -/
theorem mem_of_firstGreatest {x : α} (h : firstGreatest key xs = some x) : x ∈ xs := by
  unfold firstGreatest at h
  have hchoice := foldl_choice (P := fun _ => True) ?_ h
  · rcases hchoice with hnone | ⟨hmem, -⟩
    · cases hnone
    · exact hmem
  · rintro (_ | b) x y hy
    · exact .inr ⟨(Option.some.inj hy).symm, trivial⟩
    · dsimp only at hy
      split at hy
      · exact .inr ⟨(Option.some.inj hy).symm, trivial⟩
      · exact .inl hy

/-- There is a choice as soon as there is a candidate. -/
theorem isSome_firstGreatest : (firstGreatest key xs).isSome = !xs.isEmpty := by
  cases xs with
  | nil => rfl
  | cons x xs =>
    unfold firstGreatest
    rw [List.foldl_cons]
    refine isSome_foldl_choice ?_ rfl
    intro b x
    dsimp only
    split <;> rfl

/-- The choice after one more element. -/
def better (key : α → Int) (best : Option α) (x : α) : Option α :=
  match best with
  | some b => if key b < key x then some x else best
  | none => some x

/-- Choosing among images is choosing among what they are images of. -/
theorem firstGreatest_map {β : Type} (f : β → α) (ys : List β) :
    firstGreatest key (ys.map f) = (firstGreatest (fun y => key (f y)) ys).map f := by
  have hfold : ∀ start : Option β, (ys.map f).foldl (better key) (start.map f) =
      (ys.foldl (better fun y => key (f y)) start).map f := by
    induction ys with
    | nil => exact fun start => rfl
    | cons y ys ih =>
      intro start
      rw [List.map_cons, List.foldl_cons, List.foldl_cons, ← ih]
      cases start with
      | none => rfl
      | some b => simp only [better, Option.map_some, apply_ite (Option.map f)]
  exact hfold none

/-- Of elements of which none is greater than another, the first is chosen. -/
theorem firstGreatest_of_const {k : Int} (h : ∀ x ∈ xs, key x = k) :
    firstGreatest key xs = xs.head? := by
  have hfold : ∀ x, key x = k → xs.foldl (better key) (some x) = some x := by
    intro x hx
    induction xs with
    | nil => rfl
    | cons y ys ih =>
      obtain ⟨hy, hys⟩ := List.forall_mem_cons.1 h
      have hkept : better key (some x) y = some x := if_neg (by omega)
      rw [List.foldl_cons, hkept, ih hys]
  cases xs with
  | nil => rfl
  | cons x xs =>
    obtain ⟨hx, hxs⟩ := List.forall_mem_cons.1 h
    have hkept : better key (some x) x = some x := if_neg (Int.lt_irrefl _)
    have hrest := hfold x hx
    rw [List.foldl_cons, hkept] at hrest
    exact hrest

end FirstGreatest

/-- All directions fit the actor's own cell equally well. -/
theorem Grid.fit_center (g : Grid) (d : Direction) : g.fit g.center d = 0 := by
  unfold fit Direction.alignmentRank Direction.dot
  simp

/-! ## Tile rules -/

/-- The nearest origin is one of the survey, and its area covers the cell. -/
theorem TileSurvey.mem_of_nearest? {s : TileSurvey} {c : Cell} {entry : Cell × List Cell}
    (h : s.nearest? c = some entry) : entry ∈ s.reach ∧ c ∈ entry.2 := by
  unfold nearest? at h
  have hchoice := foldl_choice (P := fun entry => c ∈ entry.2) ?_ h
  · rcases hchoice with hnone | hmem
    · cases hnone
    · exact hmem
  · rintro best x y hy
    split at hy
    · next hcovers =>
      rw [Bool.and_eq_true, List.contains_iff_mem] at hcovers
      exact .inr ⟨(Option.some.inj hy).symm, hcovers.1⟩
    · exact .inl hy

/-! ## Directional rules -/

namespace DirectionalSurvey

variable {s : DirectionalSurvey} {c : Cell}

/-- The source of a splash can be selected and lies within the radius; a spared actor's cell has
none. -/
theorem of_splashSource? {radius : Float} {source : Cell}
    (h : s.splashSource? c radius = some source) :
    ¬ (s.scenario.sparesActor = true ∧ c = s.scenario.grid.center) ∧
      (∃ lane ∈ s.lanes, source ∈ lane.clear) ∧
      (Number.exact radius).isAtLeast (c.manhattan source) = true := by
  unfold splashSource? at h
  split at h
  · cases h
  · next hspared =>
    have hradius := List.find?_some h
    refine ⟨by simpa using hspared, ?_, hradius⟩
    exact List.mem_flatMap.1 (List.mem_of_find?_eq_some h)

/-- The best pattern is that of a usable lane and covers the cell. -/
theorem of_bestPattern? {lane : Lane} (h : s.bestPattern? c = some lane) :
    ∃ l ∈ s.lanes, l.lane = lane ∧ c ∈ lane.pattern := by
  unfold bestPattern? at h
  obtain ⟨l, hl, rfl⟩ := List.mem_map.1 (mem_of_firstGreatest h)
  obtain ⟨hmem, hcovers⟩ := List.mem_filter.1 hl
  rw [Bool.and_eq_true, List.contains_iff_mem] at hcovers
  exact ⟨l, hmem, rfl, hcovers.1⟩

/-! ### The answers for each kind of area -/

/-- A cell off the grid is not reached. -/
theorem hit?_of_not_contains (h : s.scenario.grid.contains c = false) : s.hit? c = none := by
  unfold hit?
  rw [h]
  rfl

/-- A cell that is not reached has no area. -/
theorem areaCells_of_hit?_eq_none (h : s.hit? c = none) : s.areaCells c = [] := by
  unfold areaCells
  rw [h]

section OnGrid

variable (hc : s.scenario.grid.contains c = true)
include hc

/-- With a splash, a cell is reached from the source of the splash that covers it. -/
theorem hit?_of_splash {radius : Float} (harea : s.scenario.area = .splash radius) :
    s.hit? c = (s.splashSource? c radius).map .splash := by
  unfold hit?
  rw [hc, harea]
  rfl

/-- With a splash, the area is the splash around that source. -/
theorem areaCells_of_splash {radius : Float} (harea : s.scenario.area = .splash radius) :
    s.areaCells c = ((s.splashSource? c radius).map fun source =>
      Area.cells ⟨.band ⟨0, radius⟩, s.scenario.sparesActor⟩ s.scenario.grid source none).getD
        [] := by
  unfold areaCells
  rw [hit?_of_splash hc harea, harea]
  cases s.splashSource? c radius <;> rfl

/-- With a placed area, a cell is reached along the first lane on which it can be selected. -/
theorem hit?_of_placed {area : Area} (harea : s.scenario.area = .placed area) :
    s.hit? c = (s.lanes.find? (·.clear.contains c)).map fun l => .selected l.lane := by
  unfold hit?
  rw [hc, harea]
  rfl

/-- With a placed area, the area lies on the cell and faces along the first lane that is clear up to
it. -/
theorem areaCells_of_placed {area : Area} (harea : s.scenario.area = .placed area) :
    s.areaCells c = ((s.lanes.find? (·.clear.contains c)).map fun l =>
      area.cells s.scenario.grid c (some l.lane.direction)).getD [] := by
  unfold areaCells
  rw [hit?_of_placed hc harea, harea]
  cases s.lanes.find? (·.clear.contains c) <;> rfl

/-- With a pattern, a cell is reached along the lane of the best pattern. -/
theorem hit?_of_pattern {shape : Shape} (harea : s.scenario.area = .pattern shape) :
    s.hit? c = (s.bestPattern? c).map .pattern := by
  unfold hit?
  rw [hc, harea]
  rfl

/-- With a pattern, the area is that pattern as it lies. -/
theorem areaCells_of_pattern {shape : Shape} (harea : s.scenario.area = .pattern shape) :
    s.areaCells c = ((s.bestPattern? c).map (·.pattern)).getD [] := by
  unfold areaCells
  rw [hit?_of_pattern hc harea, harea]
  cases s.bestPattern? c <;> rfl

end OnGrid

end DirectionalSurvey

/-! ## Dashes -/

namespace DashSurvey

variable {s : DashSurvey} {c : Cell}

/-- The dash for a cell hits it. -/
theorem of_laneFor? {lane : DashLane} (h : s.laneFor? c = some lane) :
    lane ∈ s.lanes ∧ c ∈ lane.hits := by
  obtain ⟨hmem, hhits⟩ := List.mem_filter.1 (mem_of_firstGreatest h)
  exact ⟨hmem, List.contains_iff_mem.1 hhits⟩

/-- There is a dash for every cell that some dash hits. -/
theorem isSome_laneFor? : (s.laneFor? c).isSome = s.isTargetable c := by
  unfold laneFor? isTargetable
  rw [isSome_firstGreatest, Bool.eq_iff_iff, Bool.not_eq_true', List.isEmpty_eq_false_iff,
    List.any_eq_true]
  simp

end DashSurvey

end Reticle
