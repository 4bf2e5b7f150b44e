import Reticle.Proofs.FewerTargets
import Reticle.Proofs.Rays

/-!
# A dash is the longest free run

A dash takes steps while they are free, and the number of steps that it looks at is cut off at the
side of the grid, however far its range goes. The steps that it takes are the first `k` for the
greatest `k` that the range allows and for which all of them are free (`Dash.exists_longestRun`).
The actor stands on the last of them and hits the path, followed by what the area adds to it. Since
more obstacles leave fewer free cells, they can only cut a path short.
-/

namespace Reticle

/-! ## Runs of numbers -/

/-- One more step comes at the end of the steps. -/
theorem wholeNumbers_succ (n : Nat) :
    wholeNumbers 1 (n + 1 : Nat) = wholeNumbers 1 n ++ [(n + 1 : Int)] := by
  unfold wholeNumbers
  have hlength : ∀ m : Nat, ((m : Int) - 1 + 1).toNat = m := by
    intro m
    omega
  rw [hlength, hlength, List.range_succ, List.map_append, List.map_singleton, add_comm]

/-- The first step comes at the start of the steps. -/
theorem wholeNumbers_cons {first last : Int} (h : first ≤ last) :
    wholeNumbers first last = first :: wholeNumbers (first + 1) last := by
  obtain ⟨n, hn⟩ : ∃ n, (last - first + 1).toNat = n + 1 := ⟨(last - first).toNat, by omega⟩
  have hrest : (last - (first + 1) + 1).toNat = n := by omega
  unfold wholeNumbers
  rw [hn, hrest, List.range_succ_eq_map, List.map_cons, List.map_map]
  refine congrArg₂ _ (by simp) (List.map_congr_left fun k _ => ?_)
  simp only [Function.comp_apply, Nat.succ_eq_add_one, Nat.cast_add, Nat.cast_one]
  omega

/-- No step is listed twice. -/
theorem nodup_wholeNumbers (first last : Int) : (wholeNumbers first last).Nodup := by
  unfold wholeNumbers
  refine List.nodup_range.map ?_
  intro j k h
  exact Int.ofNat.inj (Int.add_left_cancel h)

/-- The numbers up to the first that fails a test are the first `k`, for the greatest `k` such that
all of them pass it. -/
theorem exists_takeWhile_wholeNumbers (p : Int → Bool) (n : Nat) :
    ∃ k : Nat, k ≤ n ∧ (wholeNumbers 1 n).takeWhile p = wholeNumbers 1 k ∧
      (∀ j, 1 ≤ j → j ≤ (k : Int) → p j = true) ∧
      ∀ m : Nat, m ≤ n → (∀ j, 1 ≤ j → j ≤ (m : Int) → p j = true) → m ≤ k := by
  induction n with
  | zero => exact ⟨0, le_rfl, rfl, fun j hj hj' => by omega, fun m hm _ => hm⟩
  | succ n ih =>
    obtain ⟨k, hkn, htake, hpass, hgreatest⟩ := ih
    rw [wholeNumbers_succ]
    by_cases hall : k = n ∧ p (n + 1) = true
    · obtain ⟨rfl, hlast⟩ := hall
      refine ⟨k + 1, le_rfl, ?_, ?_, fun m hm _ => hm⟩
      · rw [List.takeWhile_append_of_pos, List.takeWhile_cons, if_pos hlast, List.takeWhile_nil,
          wholeNumbers_succ]
        intro j hj
        obtain ⟨hj, hj'⟩ := mem_wholeNumbers.1 hj
        exact hpass j hj hj'
      · intro j hj hj'
        by_cases hjk : j ≤ k
        · exact hpass j hj hjk
        · have hlastj : j = k + 1 := by omega
          rw [hlastj]
          exact hlast
    · -- The run has ended before, or ends with the last number.
      refine ⟨k, by omega, ?_, hpass, ?_⟩
      · rw [List.takeWhile_append, htake]
        split
        · next hlength =>
          have hkn' : k = n := by
            simp only [wholeNumbers, List.length_map, List.length_range] at hlength
            omega
          subst hkn'
          rw [List.takeWhile_cons, if_neg fun hlast => hall ⟨rfl, hlast⟩, List.append_nil]
        · rfl
      · intro m hm hpassm
        by_cases hmn : m ≤ n
        · exact hgreatest m hmn hpassm
        · have hlast : m = n + 1 := by omega
          have hn : n ≤ k := hgreatest n le_rfl fun j hj hj' => hpassm j hj (by omega)
          exact absurd ⟨by omega, hpassm (n + 1) (by omega) (by omega)⟩ hall

/-! ## Lists without repetition -/

/-- A list followed by what another list adds to it. -/
theorem eraseDups_append_of_nodup {xs ys : List Cell} (hxs : xs.Nodup) (hys : ys.Nodup) :
    (xs ++ ys).eraseDups = xs ++ ys.filter (· ∉ xs) := by
  have hadded : ys.removeAll xs = ys.filter (· ∉ xs) := by
    unfold List.removeAll
    refine List.filter_congr fun c _ => ?_
    simp
  rw [List.eraseDups_append, eraseDups_of_nodup hxs, hadded, eraseDups_of_nodup (hys.filter _)]

/-! ## Steps -/

/-- Different numbers of steps in a direction lead to different cells. -/
theorem Cell.step_injective (c : Cell) (d : Direction) : Function.Injective (c.step d) := by
  intro j k h
  have hrow := congrArg Cell.row h
  have hcol := congrArg Cell.col h
  unfold Cell.step Cell.shift at hrow hcol
  cases d <;> simp only [Direction.row, Direction.col] at hrow hcol <;> omega

namespace Dash

variable {s : Dash} {board : Board} {d : Direction}

/-- The first steps along a direction lead over free cells of the grid. -/
def RunsFree (s : Dash) (board : Board) (d : Direction) (steps : Int) : Prop :=
  ∀ j, 1 ≤ j → j ≤ steps → s.grid.contains (s.grid.center.step d j) = true ∧
    board.isBlocked (s.grid.center.step d j) = false

/-- The greatest number of steps that a range allows and that lead over free cells. -/
structure LongestRun (s : Dash) (board : Board) (range : Float) (d : Direction) (steps : Int) :
    Prop where
  nonneg : 0 ≤ steps
  allowed : (Number.exact range).isAtLeast steps = true
  free : s.RunsFree board d steps
  longest : ∀ n, (Number.exact range).isAtLeast n = true → s.RunsFree board d n → n ≤ steps

/-- A free run stays on the grid. -/
theorem RunsFree.le_reach {n : Int} (h : s.RunsFree board d n) (hn : 1 ≤ n) : n ≤ s.grid.reach :=
  Grid.step_le_of_contains (h n hn le_rfl).1

/-- The path of a dash is the longest free run within its number of steps. -/
theorem exists_path_eq (s : Dash) (hsteps : 0 ≤ s.maxSteps) (board : Board) (d : Direction) :
    ∃ k : Int, 0 ≤ k ∧ k ≤ s.maxSteps ∧ s.RunsFree board d k ∧
      (∀ n ≤ s.maxSteps, s.RunsFree board d n → n ≤ k) ∧
      s.path board d = (wholeNumbers 1 k).map (s.grid.center.step d) := by
  obtain ⟨limit, hlimit⟩ : ∃ limit : Nat, min s.maxSteps s.grid.side = limit :=
    ⟨_, (Int.toNat_of_nonneg (by omega)).symm⟩
  obtain ⟨k, hk, htake, hpass, hgreatest⟩ := exists_takeWhile_wholeNumbers
    (fun j => s.grid.contains (s.grid.center.step d j) &&
      !board.isBlocked (s.grid.center.step d j)) limit
  simp only [Bool.and_eq_true, Bool.not_eq_true'] at hpass hgreatest
  refine ⟨k, by omega, by omega, hpass, ?_, ?_⟩
  · intro n hn hfree
    by_cases hpos : 1 ≤ n
    · have hreach := hfree.le_reach hpos
      unfold Grid.side at hlimit
      have hnk := hgreatest n.toNat (by omega) fun j hj hj' => hfree j hj (by omega)
      omega
    · omega
  · unfold path
    rw [hlimit, List.takeWhile_map]
    exact congrArg _ htake

end Dash

/-! ## The range of a dash -/

namespace Number

/-- What is not below something that is at least a whole number is at least that number too. -/
theorem Extended.isAtLeast_of_not_isBelow {e f : Extended} {n : Int} (he : e ≠ .undefined)
    (hbelow : e.isBelow f = false) (hf : f.isAtLeast n = true) : e.isAtLeast n = true := by
  cases f with
  | undefined => exact absurd hf Bool.false_ne_true
  | bottom => exact absurd hf Bool.false_ne_true
  | top => cases e <;> simp_all [isBelow, isAtLeast]
  | finite q =>
    cases e with
    | undefined => exact absurd rfl he
    | bottom => exact absurd hbelow (by simp [isBelow])
    | top => rfl
    | finite p =>
      have hp : q ≤ p := not_lt.1 (of_decide_eq_false hbelow)
      have hq : (n : Rat) ≤ q := of_decide_eq_true hf
      exact decide_eq_true (hq.trans hp)

/-- The larger of two numbers reaches what one of them reaches. -/
theorem isAtLeast_larger_right {x y : Float} {n : Int} (h : (exact y).isAtLeast n = true) :
    (exact (larger x y)).isAtLeast n = true := by
  unfold larger
  split
  · exact h
  · next hx =>
    rw [not_or, Bool.not_eq_true] at hx
    exact Extended.isAtLeast_of_not_isBelow hx.1 hx.2 h

end Number

/-- The steps that can be selected by the range fields of a directional rule. -/
def Rule.selectionIn (rule : Rule) (given : Sliders) : Bounds :=
  let least := Number.larger (rule.requestedIn given).min 1
  ⟨least, Number.larger (rule.requestedIn given).max least⟩

/-- At least one step can be selected. -/
theorem Rule.isAtLeast_selectionIn (rule : Rule) (given : Sliders) :
    (Number.exact (rule.selectionIn given).max).isAtLeast 1 = true := by
  have hone : (Number.exact 1).isAtLeast 1 = true := by
    rw [Number.exact_one]
    decide
  exact Number.isAtLeast_larger_right (Number.isAtLeast_larger_right hone)

namespace Dash

variable {s : Dash} {board board' : Board} {d : Direction}

/-- A number of steps on the grid is allowed by the range exactly if the dash counts so far. -/
theorem le_maxSteps_iff {range : Float} (hrange : (Number.exact range).isAtLeast 1 = true)
    (hmax : s.maxSteps = max 0 (Number.floor range)) {n : Int} (hn : n ≤ s.grid.reach) :
    n ≤ s.maxSteps ↔ (Number.exact range).isAtLeast n = true := by
  have hreach := s.grid.reach_lt
  by_cases hpos : 0 < n
  · have hdefined : Number.exact range ≠ .undefined := by
      intro hundefined
      rw [hundefined] at hrange
      exact Bool.false_ne_true hrange
    have hfloor := Number.Extended.le_floor_iff hdefined (n := n)
      (lt_trans (by decide) hpos) (by unfold Number.Extended.coordinateMax; omega)
    rw [hmax, ← hfloor]
    unfold Number.floor
    omega
  · have hallowed : (Number.exact range).isAtLeast n = true :=
      Number.Extended.isAtLeast_of_le hrange (by omega)
    exact iff_of_true (by omega) hallowed

/-- A dash runs as far as its range and the free cells allow. -/
theorem exists_longestRun {range : Float} (hrange : (Number.exact range).isAtLeast 1 = true)
    (hmax : s.maxSteps = max 0 (Number.floor range)) (board : Board) (d : Direction) :
    ∃ k, s.LongestRun board range d k ∧
      s.path board d = (wholeNumbers 1 k).map (s.grid.center.step d) := by
  obtain ⟨k, hnonneg, hk, hfree, hlongest, hpath⟩ :=
    exists_path_eq s (by omega) board d
  have hreach : ∀ n, s.RunsFree board d n → n ≤ s.grid.reach := by
    intro n hn
    by_cases hpos : 1 ≤ n
    · exact hn.le_reach hpos
    · omega
  refine ⟨k, ⟨hnonneg, (le_maxSteps_iff hrange hmax (hreach k hfree)).1 hk, hfree, ?_⟩, hpath⟩
  intro n hn hrun
  exact hlongest n ((le_maxSteps_iff hrange hmax (hreach n hrun)).2 hn) hrun

/-- A dash passes no cell twice. -/
theorem nodup_path : (s.path board d).Nodup := by
  refine List.Nodup.sublist (List.takeWhile_sublist _) ?_
  exact (nodup_wholeNumbers _ _).map (s.grid.center.step_injective d)

/-- The actor stands on the last cell of its path. -/
theorem stop_eq {k : Int} (hk : 0 ≤ k)
    (hpath : s.path board d = (wholeNumbers 1 k).map (s.grid.center.step d)) :
    (s.lane board d).stop = s.grid.center.step d k := by
  show (s.path board d).getLastD s.grid.center = _
  rw [hpath]
  obtain ⟨n, rfl⟩ := Int.eq_ofNat_of_zero_le hk
  cases n with
  | zero => exact (Cell.step_zero _ d).symm
  | succ n => rw [wholeNumbers_succ, List.map_append, List.map_singleton, List.getLastD_concat]; rfl

/-- The cells that a dash hits are its path and then what the area adds to it. -/
theorem hits_eq : (s.lane board d).hits = s.path board d ++
    (s.area.cells s.grid (s.lane board d).stop (some d)).filter (· ∉ s.path board d) :=
  eraseDups_append_of_nodup nodup_path (s.area.lists_cells contains_stop (some d)).nodup

/-! ## More obstacles -/

/-- A test that fewer elements pass ends a run no later. -/
theorem takeWhile_prefix_takeWhile {α : Type} {p q : α → Bool} {xs : List α}
    (h : ∀ x ∈ xs, p x = true → q x = true) : xs.takeWhile p <+: xs.takeWhile q := by
  induction xs with
  | nil => exact List.prefix_rfl
  | cons x xs ih =>
    rw [List.takeWhile_cons, List.takeWhile_cons]
    by_cases hp : p x = true
    · rw [if_pos hp, if_pos (h x List.mem_cons_self hp), List.prefix_cons_inj]
      exact ih fun y hy => h y (List.mem_cons_of_mem x hy)
    · rw [if_neg hp]
      exact List.nil_prefix

/-- With more obstacles a dash goes a part of its way, from the start. -/
theorem path_prefix_of_subset (hsub : ∀ c ∈ board.obstacles, c ∈ board'.obstacles) :
    s.path board' d <+: s.path board d := by
  refine takeWhile_prefix_takeWhile fun c _ hgoes => ?_
  rw [Bool.and_eq_true, Bool.not_eq_true'] at hgoes ⊢
  exact ⟨hgoes.1, Board.isBlocked_eq_false_of_subset hsub hgoes.2⟩

/-- A dash depends on the obstacles of its arm only. -/
theorem lane_congr (harm : ∀ k : Int, 1 ≤ k →
      (s.grid.center.step d k ∈ board.obstacles ↔ s.grid.center.step d k ∈ board'.obstacles)) :
    s.lane board d = s.lane board' d := by
  have hpath : s.path board d = s.path board' d := by
    refine path_congr fun k hk _ => ?_
    rw [Bool.eq_iff_iff, Board.isBlocked_iff, Board.isBlocked_iff]
    exact harm k hk
  unfold lane
  rw [hpath]

end Dash

/-- What a dash does: its path is as many steps from the actor as its range and the free cells
allow, it stops on the last of them, and it hits the path and then the cells that the area around
the last cell adds, each once. -/
structure DashLane.RunsLongest (lane : DashLane) (s : Dash) (board : Board) (range : Float)
    (steps : Int) : Prop where
  longest : s.LongestRun board range lane.direction steps
  path : lane.path = (wholeNumbers 1 steps).map (s.grid.center.step lane.direction)
  stop : lane.stop = s.grid.center.step lane.direction steps
  hits : lane.hits = lane.path ++
    (s.area.cells s.grid lane.stop (some lane.direction)).filter (· ∉ lane.path)
  nodup : lane.hits.Nodup

/-- Whether a scenario is a dash. -/
def Scenario.isDash : Scenario → Bool
  | dash _ => true
  | _ => false

/-- A scenario that counts as a dash is one. -/
theorem Scenario.exists_of_isDash {s : Scenario} (h : s.isDash = true) : ∃ d, s = .dash d := by
  cases s with
  | dash d => exact ⟨d, rfl⟩
  | selfCast s => exact absurd h Bool.false_ne_true
  | tile t => exact absurd h Bool.false_ne_true
  | directional s => exact absurd h Bool.false_ne_true

/-- How far a dash counts its steps. -/
theorem Dash.maxSteps_of_render {text : String} {grid : Grid} {sliders after : Sliders}
    {options : RenderOptions} {rendered : Rendered}
    (h : render text grid sliders options = (.ready rendered, after)) {s : Dash}
    (hs : rendered.scenario = .dash s) :
    s.maxSteps =
      max 0 (Number.floor ((Rule.ofText text).selectionIn sliders).max) := by
  obtain ⟨-, hscenario⟩ := read_of_render h
  have hyields : FieldReader.Yields sliders (Rule.ofText text) _ _ :=
    Scenario.yields_readFrom rendered.mode grid options.dash
  obtain ⟨hread, -⟩ := hyields ⟨sliders.forgetRequired, []⟩ sliders.valueOf_forgetRequired
  rw [← hscenario, hs] at hread
  generalize rendered.mode = mode at hread
  cases hread with
  | dash happlies hfields hlists =>
    show max 0 (Number.floor _) = _
    rw [hfields.selection]
    rfl

/-- A dash rule gives one dash in each cardinal direction, and each of them is the longest free run
that the range allows. More obstacles cut the paths short, and they change no dash on whose arm none
of them stands. -/
theorem render_dashes_run_longest {text : String} {grid : Grid} {sliders after : Sliders}
    {options : RenderOptions} {rendered : Rendered}
    (h : render text grid sliders options = (.ready rendered, after)) {s : Dash}
    (hs : rendered.scenario = .dash s) :
    (∀ board, (s.lanes board).map (·.direction) = [.north, .south, .west, .east] ∧
      ∀ lane ∈ s.lanes board, ∃ steps, lane.RunsLongest s board
        ((Rule.ofText text).selectionIn sliders).max steps) ∧
    ∀ board board' : Board, (∀ c ∈ board.obstacles, c ∈ board'.obstacles) →
      List.Forall₂
        (fun old new => new.path <+: old.path ∧
          ((∀ c ∈ board'.obstacles, c ∉ board.obstacles →
            ∀ k : Int, 1 ≤ k → c ≠ s.grid.center.step old.direction k) → new = old))
        (s.lanes board) (s.lanes board') := by
  have hmax := Dash.maxSteps_of_render h hs
  have hrange := (Rule.ofText text).isAtLeast_selectionIn sliders
  refine ⟨fun board => ⟨rfl, ?_⟩, fun board board' hsub => ?_⟩
  · intro lane hlane
    obtain ⟨d, -, rfl⟩ := List.mem_map.1 hlane
    obtain ⟨steps, hlongest, hpath⟩ := Dash.exists_longestRun hrange hmax board d
    exact ⟨steps, hlongest, hpath, Dash.stop_eq hlongest.nonneg hpath, Dash.hits_eq,
      Dash.lists_hits.nodup⟩
  · unfold Dash.lanes
    rw [List.forall₂_map_left_iff, List.forall₂_map_right_iff, List.forall₂_same]
    intro d _
    refine ⟨Dash.path_prefix_of_subset hsub, fun harm => (Dash.lane_congr ?_).symm⟩
    intro k hk
    refine ⟨hsub _, fun hadded => ?_⟩
    by_contra hnew
    exact harm _ hadded hnew k hk rfl

/-- A dash of up to four steps with a small splash. -/
def splashingDash : String :=
  "target_mode direction\nmax_range 4\naoe_radius 1"

/-- An obstacle two cells to the east cuts the dash to the east short. -/
theorem render_dashes_run_longest_example :
    ∃ rendered after s,
      render splashingDash (.ofSide 7) .empty ⟨true, []⟩ = (.ready rendered, after) ∧
      rendered.scenario = .dash s ∧
      let barred : Board := ⟨.ofSide 7, CellSet.empty.insert ⟨3, 5⟩⟩
      (∀ lane ∈ s.lanes barred, ∃ steps, lane.RunsLongest s barred
        ((Rule.ofText splashingDash).selectionIn .empty).max steps) ∧
      List.Forall₂ (fun old new => new.path <+: old.path) (s.lanes (.empty (.ofSide 7)))
        (s.lanes barred) := by
  have hblank : ¬ Text.isBlankText splashingDash = true := by decide +kernel
  have hmode : (Rule.ofText splashingDash).targetMode = .ok .direction := by decide +kernel
  obtain ⟨rendered, after, hready, -, hscenario⟩ :=
    exists_render_of_targetMode hblank hmode (.ofSide 7) .empty ⟨true, []⟩
  obtain ⟨s, hs⟩ : ∃ s, rendered.scenario = .dash s := by
    apply Scenario.exists_of_isDash
    rw [hscenario]
    decide +kernel
  obtain ⟨hlanes, hmore⟩ := render_dashes_run_longest hready hs
  refine ⟨rendered, after, s, hready, hs, (hlanes _).2, ?_⟩
  have hsub : ∀ c ∈ (Board.empty (.ofSide 7)).obstacles, c ∈ CellSet.empty.insert ⟨3, 5⟩ :=
    fun c hc => absurd hc List.not_mem_nil
  exact (hmore (.empty (.ofSide 7)) ⟨.ofSide 7, CellSet.empty.insert ⟨3, 5⟩⟩ hsub).imp
    fun _ _ hlane => hlane.1

end Reticle
