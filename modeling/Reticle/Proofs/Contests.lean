import Reticle.Proofs.Aligning
import Reticle.Proofs.Targets

/-!
# Contested cells

A cell can lie in the patterns of several lanes, or be hit by several dashes. It goes to the one
that reaches farthest towards it, and to the first of several that reach equally far. A contest
looks at the lanes one after another and keeps one of them; what it has come to after each lane is
a `Verdict`, and a lane without a claim never stands in the way of a later one
(`Verdict.concat`). The contests `Directional.contest?` and `Dash.contest?` compare alignments as
doubles, and compare them before it is known whether a lane can be used. They go to the greatest
alignment, and near the actor that is the greatest projection
(`Directional.contest?_eq_bestPattern?`).
-/

namespace Reticle

/-! ## The first of the best -/

section Contest

variable {α β γ : Type} [LinearOrder β] [LinearOrder γ] {claims : α → Prop} {score : α → β}
  {xs : List α} {x y : α}

/-- An element with a claim that scores higher than all claimants before it, and at least as high
as all claimants after it. -/
def FirstBest (claims : α → Prop) (score : α → β) (xs : List α) (x : α) : Prop :=
  ∃ before after, xs = before ++ x :: after ∧ claims x ∧
    (∀ y ∈ before, claims y → score y < score x) ∧ ∀ y ∈ after, claims y → score y ≤ score x

namespace FirstBest

/-- The first best is one of the contestants. -/
theorem mem (h : FirstBest claims score xs x) : x ∈ xs := by
  obtain ⟨before, after, rfl, -⟩ := h
  exact List.mem_append_right before List.mem_cons_self

/-- The first best has a claim. -/
theorem claims_self (h : FirstBest claims score xs x) : claims x := by
  obtain ⟨before, after, -, hclaims, -⟩ := h
  exact hclaims

/-- No claimant scores higher. -/
theorem le (h : FirstBest claims score xs x) (hy : y ∈ xs) (hclaims : claims y) :
    score y ≤ score x := by
  obtain ⟨before, after, rfl, -, hbefore, hafter⟩ := h
  rcases List.mem_append.1 hy with hy | hy
  · exact (hbefore y hy hclaims).le
  · rcases List.mem_cons.1 hy with rfl | hy
    · exact le_rfl
    · exact hafter y hy hclaims

/-- There is one first best only. -/
theorem unique (hx : FirstBest claims score xs x) (hy : FirstBest claims score xs y) : x = y := by
  -- If the one came later, it would score higher than the other and at most as high.
  have hlater : ∀ {u v : α} {before between after : List α},
      claims u → claims v → (∀ w ∈ before ++ u :: between, claims w → score w < score v) →
      ¬ ∀ w ∈ between ++ v :: after, claims w → score w ≤ score u := by
    intro u v before between after hu hv hlt hle
    exact absurd (hlt u (List.mem_append_right _ List.mem_cons_self) hu)
      (hle v (List.mem_append_right _ List.mem_cons_self) hv).not_gt
  obtain ⟨before, after, rfl, hclaims, hbefore, hafter⟩ := hx
  obtain ⟨before', after', hsplit, hclaims', hbefore', hafter'⟩ := hy
  rcases List.append_eq_append_iff.1 hsplit with ⟨between, rfl, hrest⟩ | ⟨between, rfl, hrest⟩
  · cases between with
    | nil => exact (List.cons.inj hrest).1
    | cons u between =>
      obtain ⟨rfl, rfl⟩ := List.cons.inj hrest
      exact absurd hafter (hlater hclaims hclaims' hbefore')
  · cases between with
    | nil => exact (List.cons.inj hrest).1.symm
    | cons u between =>
      obtain ⟨rfl, rfl⟩ := List.cons.inj hrest
      exact absurd hafter' (hlater hclaims' hclaims hbefore)

/-- A later contestant that does not score higher changes nothing. -/
theorem concat (h : FirstBest claims score xs x) (hy : claims y → score y ≤ score x) :
    FirstBest claims score (xs ++ [y]) x := by
  obtain ⟨before, after, rfl, hclaims, hbefore, hafter⟩ := h
  refine ⟨before, after ++ [y], by simp, hclaims, hbefore, fun z hz => ?_⟩
  rcases List.mem_append.1 hz with hz | hz
  · exact hafter z hz
  · exact List.mem_singleton.1 hz ▸ hy

/-- Only the order of the scores counts. -/
theorem congr {score' : α → γ} (hscore : ∀ x y, score x < score y ↔ score' x < score' y)
    (h : FirstBest claims score xs x) : FirstBest claims score' xs x := by
  obtain ⟨before, after, hsplit, hclaims, hbefore, hafter⟩ := h
  refine ⟨before, after, hsplit, hclaims, fun y hy hy' => ?_, fun y hy hy' => not_lt.1 ?_⟩
  · exact (hscore y x).1 (hbefore y hy hy')
  · exact mt (hscore x y).2 (hafter y hy hy').not_gt

/-- A later contestant with a claim that scores higher than all claimants is the first best. -/
theorem last (hy : claims y) (hbest : ∀ z ∈ xs, claims z → score z < score y) :
    FirstBest claims score (xs ++ [y]) y :=
  ⟨xs, [], rfl, hy, hbest, by simp⟩

end FirstBest

/-- What a contest comes to: nothing if nobody has a claim, and else the first best. -/
def Verdict (claims : α → Prop) (score : α → β) (xs : List α) : Option α → Prop
  | none => ∀ x ∈ xs, ¬ claims x
  | some x => FirstBest claims score xs x

/-- One round of a contest: a claimant that beats the one kept so far is kept instead. -/
def challenge (claims : α → Bool) (beaten : α → α → Bool) (best : Option α) (x : α) : Option α :=
  if claims x && best.all (beaten · x) then some x else best

/-- A round in which the claim has two parts, of which the second is looked at last. -/
theorem challenge_and (p q : α → Bool) (beaten : α → α → Bool) (best : Option α) (x : α) :
    challenge (fun x => p x && q x) beaten best x =
      if !p x then best
      else if best.any fun kept => !beaten kept x then best
      else if q x then some x
      else best := by
  have hkept : (best.any fun kept => !beaten kept x) = !best.all (beaten · x) := by
    cases best <;> rfl
  rw [hkept]
  show (if p x && q x && best.all (beaten · x) then some x else best) = _
  cases p x <;> cases best.all (beaten · x) <;> cases q x <;> rfl

/-- A round is skipped by those without a claim. -/
theorem challenge_eq_ite (p : α → Bool) (beaten : α → α → Bool) (best : Option α) (x : α) :
    challenge p beaten best x =
      if p x then if best.all (beaten · x) then some x else best else best := by
  unfold challenge
  cases p x <;> rfl

namespace Verdict

variable {best : Option α}

/-- A contest has a winner when somebody has a claim. -/
theorem isSome_iff (h : Verdict claims score xs best) :
    best.isSome = true ↔ ∃ x ∈ xs, claims x := by
  cases best with
  | none => simpa [Verdict] using h
  | some x => exact iff_of_true rfl ⟨x, FirstBest.mem h, FirstBest.claims_self h⟩

/-- The winner is the first best. -/
theorem eq_some_iff (h : Verdict claims score xs best) :
    best = some x ↔ FirstBest claims score xs x := by
  cases best with
  | none => exact iff_of_false nofun fun hx => h x hx.mem hx.claims_self
  | some y =>
    rw [Option.some.injEq]
    exact ⟨fun hxy => hxy ▸ h, fun hx => FirstBest.unique h hx⟩

/-- Only the order of the scores matters to the outcome. -/
theorem congr {score' : α → γ} (hscore : ∀ x y, score x < score y ↔ score' x < score' y)
    (h : Verdict claims score xs best) : Verdict claims score' xs best := by
  cases best with
  | none => exact h
  | some x => exact FirstBest.congr hscore h

/-- A contest comes to one thing only. -/
theorem eq {best' : Option α} (h : Verdict claims score xs best)
    (h' : Verdict claims score xs best') : best = best' :=
  Option.ext fun _ => h.eq_some_iff.trans h'.eq_some_iff.symm

/-- A round keeps the verdict. -/
theorem concat {accepts : α → Bool} {beaten : α → α → Bool}
    (haccepts : ∀ x, accepts x = true ↔ claims x)
    (hbeaten : ∀ x y, beaten x y = true ↔ score x < score y)
    (h : Verdict claims score xs best) (y : α) :
    Verdict claims score (xs ++ [y]) (challenge accepts beaten best y) := by
  unfold challenge
  by_cases hy : claims y
  · rw [(haccepts y).2 hy, Bool.true_and]
    cases best with
    | none => exact FirstBest.last hy fun z hz hclaims => absurd hclaims (h z hz)
    | some x =>
      -- The newcomer has to score higher, so the first of equals stays.
      rw [Option.all_some]
      by_cases hless : score x < score y
      · rw [if_pos ((hbeaten x y).2 hless)]
        exact FirstBest.last hy fun z hz hclaims => (FirstBest.le h hz hclaims).trans_lt hless
      · rw [if_neg (mt (hbeaten x y).1 hless)]
        exact FirstBest.concat h fun _ => not_lt.1 hless
  · rw [Bool.eq_false_iff.2 (mt (haccepts y).1 hy), Bool.false_and, if_neg Bool.false_ne_true]
    cases best with
    | none =>
      intro z hz
      rcases List.mem_append.1 hz with hz | hz
      · exact h z hz
      · exact List.mem_singleton.1 hz ▸ hy
    | some x => exact FirstBest.concat h fun hclaims => absurd hclaims hy

/-- All rounds together decide the contest. -/
theorem foldl {accepts : α → Bool} {beaten : α → α → Bool}
    (haccepts : ∀ x, accepts x = true ↔ claims x)
    (hbeaten : ∀ x y, beaten x y = true ↔ score x < score y) (xs : List α) :
    Verdict claims score xs (xs.foldl (challenge accepts beaten) none) := by
  induction xs using List.reverseRecOn with
  | nil => exact fun x hx => absurd hx List.not_mem_nil
  | append_singleton xs y ih =>
    rw [List.foldl_append]
    exact ih.concat haccepts hbeaten y

/-- The greatest of those with a claim decides the contest. -/
theorem firstGreatest {accepts : α → Bool} {key : α → Int}
    (haccepts : ∀ x, accepts x = true ↔ claims x)
    (hkey : ∀ x y, key x < key y ↔ score x < score y) (xs : List α) :
    Verdict claims score xs (firstGreatest key (xs.filter accepts)) := by
  have hloop : Reticle.firstGreatest key (xs.filter accepts) =
      xs.foldl (challenge accepts fun x y => decide (key x < key y)) none := by
    unfold Reticle.firstGreatest
    rw [List.foldl_filter]
    congr
    funext best x
    unfold challenge
    cases best <;> cases accepts x <;> simp
  rw [hloop]
  exact foldl haccepts (fun x y => decide_eq_true_iff.trans (hkey x y)) xs

end Verdict

end Contest

/-! ## Lanes and dashes -/

/-- How far a cell lies along a direction, seen from the actor. -/
noncomputable def Grid.projection (g : Grid) (c : Cell) (d : Direction) : ℝ :=
  d.projection (c.row - g.center.row) (c.col - g.center.col)

/-- The whole numbers that rank directions compare as the projections do. -/
theorem Grid.fit_lt_iff {g : Grid} {c : Cell} {d e : Direction} :
    g.fit c d < g.fit c e ↔ g.projection c d < g.projection c e :=
  Direction.alignmentRank_lt_iff d e _ _

/-- Whether the alignment of one direction with a cell, as a double, is below that of another. -/
def Grid.fitsWorse (g : Grid) (c : Cell) (d e : Direction) : Bool :=
  let dRow := c.row - g.center.row
  let dCol := c.col - g.center.col
  (Number.exact (d.alignment dRow dCol)).isBelow (Number.exact (e.alignment dRow dCol))

/-- The value of the alignment of a direction with a cell, seen from the actor. -/
def Grid.alignment (g : Grid) (c : Cell) (d : Direction) : Rat :=
  Number.value (d.alignment (c.row - g.center.row) (c.col - g.center.col))

/-- A cell within `2 ^ n` rows and columns of the actor. -/
def Grid.Within (g : Grid) (n : Nat) (c : Cell) : Prop :=
  Direction.Within n (c.row - g.center.row) (c.col - g.center.col)

namespace Grid.Within

variable {g : Grid} {c : Cell}

/-- Within 50 binary digits the loop compares what the alignments in doubles stand for. -/
theorem fitsWorse_iff_alignment_lt (h : g.Within 50 c) (d e : Direction) :
    g.fitsWorse c d e = true ↔ g.alignment c d < g.alignment c e :=
  Number.isBelow_iff_value_lt (d.isFinite_alignment h) (e.isFinite_alignment h)

/-- Within 22 binary digits the loop compares the projections themselves. -/
theorem fitsWorse_iff_projection_lt (h : g.Within 22 c) (d e : Direction) :
    g.fitsWorse c d e = true ↔ g.projection c d < g.projection c e :=
  Direction.isBelow_alignment_iff d e h

end Grid.Within

/-- Every direction fits the actor's own cell as well as any other. -/
theorem Grid.fitsWorse_center (g : Grid) (d e : Direction) : g.fitsWorse g.center d e = false := by
  have hwithin : g.Within 22 g.center := ⟨by simp, by simp⟩
  rw [Bool.eq_false_iff, Ne, hwithin.fitsWorse_iff_projection_lt, ← fit_lt_iff, fit_center,
    fit_center]
  exact lt_irrefl 0

/-- A lane offers a cell if its pattern has the cell and some cell of the lane can be selected. -/
@[mk_iff]
structure Lane.Offers (lane : Lane) (board : Board) (c : Cell) : Prop where
  covers : c ∈ lane.pattern
  usable : ∃ source ∈ lane.selection, board.pathClear source = true

namespace Directional

variable (s : Directional) (board : Board) (c : Cell)

/-- The lane for a cell, by going over the lanes: one that covers the cell and has a greater
alignment than the lane kept so far is kept instead if it can be used. -/
def contest? : Option Lane :=
  s.lanes.foldl
    (fun best lane =>
      if !lane.pattern.contains c then best
      else if best.any fun kept => !s.grid.fitsWorse c kept.direction lane.direction then best
      else if lane.selection.any board.pathClear then some lane
      else best)
    none

/-- The pattern that is chosen is the first best of those that offer the cell. -/
theorem verdict_bestPattern? :
    Verdict (·.Offers board c) (fun lane => s.grid.projection c lane.direction) s.lanes
      ((DirectionalSurvey.of s board).bestPattern? c) := by
  have hlanes : ((DirectionalSurvey.of s board).lanes.filter fun l =>
        l.lane.pattern.contains c && !l.clear.isEmpty).map (·.lane) =
      s.lanes.filter fun lane =>
        lane.pattern.contains c && !(lane.selection.filter board.pathClear).isEmpty := by
    unfold DirectionalSurvey.of
    rw [List.filter_map, List.map_map]
    exact List.map_id _
  unfold DirectionalSurvey.bestPattern?
  rw [hlanes]
  refine Verdict.firstGreatest (fun lane => ?_) (fun _ _ => Grid.fit_lt_iff) s.lanes
  rw [Lane.offers_iff, Bool.and_eq_true, List.contains_iff_mem, Bool.not_eq_true',
    List.isEmpty_eq_false_iff_exists_mem]
  simp only [List.mem_filter]

variable {s c} in
/-- The contest is decided by any score that orders the lanes as their alignments do. It does not
matter that lanes are compared before it is known whether they can be used. -/
theorem verdict_contest? {β : Type} [LinearOrder β] {score : Lane → β}
    (hscore : ∀ kept lane : Lane,
      s.grid.fitsWorse c kept.direction lane.direction = true ↔ score kept < score lane) :
    Verdict (·.Offers board c) score s.lanes (s.contest? board c) := by
  let covers (lane : Lane) : Bool := lane.pattern.contains c
  let usable (lane : Lane) : Bool := lane.selection.any board.pathClear
  let beaten (kept lane : Lane) : Bool := s.grid.fitsWorse c kept.direction lane.direction
  have hloop : s.contest? board c =
      s.lanes.foldl (challenge (fun lane => covers lane && usable lane) beaten) none := by
    unfold contest?
    congr
    funext best lane
    exact (challenge_and covers usable beaten best lane).symm
  rw [hloop]
  refine Verdict.foldl (fun lane => ?_) hscore s.lanes
  rw [Lane.offers_iff, Bool.and_eq_true, List.contains_iff_mem, List.any_eq_true]

/-- Near the actor, the greatest alignment is the greatest projection. -/
theorem contest?_eq_bestPattern? (h : s.grid.Within 22 c) :
    s.contest? board c = (DirectionalSurvey.of s board).bestPattern? c :=
  Verdict.eq (verdict_contest? board fun _ _ => h.fitsWorse_iff_projection_lt _ _)
    (s.verdict_bestPattern? board c)

end Directional

namespace Dash

variable (s : Dash) (board : Board) (c : Cell)

/-- The dash for a cell, by going over the dashes that hit it: the first for the actor's own cell,
and else one with a greater alignment than the dash kept so far is kept instead. -/
def contest? : Option DashLane :=
  let covering := (s.lanes board).filter (·.hits.contains c)
  if c = s.grid.center then covering.head?
  else
    covering.foldl
      (fun best lane =>
        if best.all fun kept => s.grid.fitsWorse c kept.direction lane.direction then some lane
        else best)
      none

/-- The dash lane that is chosen is the first best of those that hit the cell. -/
theorem verdict_laneFor? :
    Verdict (c ∈ ·.hits) (fun lane => s.grid.projection c lane.direction) (s.lanes board)
      ((DashSurvey.of s board).laneFor? c) :=
  Verdict.firstGreatest (fun _ => List.contains_iff_mem) (fun _ _ => Grid.fit_lt_iff) (s.lanes board)

/-- The actor's own cell goes to the first dash that hits it. -/
theorem laneFor?_center :
    (DashSurvey.of s board).laneFor? s.grid.center =
      (s.lanes board).find? (·.hits.contains s.grid.center) := by
  unfold DashSurvey.laneFor?
  rw [← List.head?_filter]
  exact firstGreatest_of_const fun lane _ => s.grid.fit_center lane.direction

variable {s c} in
/-- The contest is decided by any score that orders the dashes as their alignments do. -/
theorem verdict_contest? {β : Type} [LinearOrder β] {score : DashLane → β}
    (hscore : ∀ kept lane : DashLane,
      s.grid.fitsWorse c kept.direction lane.direction = true ↔ score kept < score lane) :
    Verdict (c ∈ ·.hits) score (s.lanes board) (s.contest? board c) := by
  unfold contest?
  by_cases hc : c = s.grid.center
  · -- No dash beats another here, with doubles or without.
    subst hc
    have hflat : ∀ kept lane : DashLane, ¬ score kept < score lane := by
      intro kept lane
      rw [← hscore, s.grid.fitsWorse_center]
      exact Bool.false_ne_true
    rw [if_pos rfl, List.head?_filter, ← s.laneFor?_center board]
    refine (s.verdict_laneFor? board s.grid.center).congr fun kept lane => ?_
    refine iff_of_false ?_ (hflat kept lane)
    rw [← Grid.fit_lt_iff, s.grid.fit_center, s.grid.fit_center]
    exact lt_irrefl 0
  · let covers (lane : DashLane) : Bool := lane.hits.contains c
    let beaten (kept lane : DashLane) : Bool := s.grid.fitsWorse c kept.direction lane.direction
    have hloop : ((s.lanes board).filter covers).foldl
          (fun best lane => if best.all (beaten · lane) then some lane else best) none =
        (s.lanes board).foldl (challenge covers beaten) none := by
      rw [List.foldl_filter]
      congr
      funext best lane
      exact (challenge_eq_ite covers beaten best lane).symm
    rw [if_neg hc]
    exact hloop ▸ Verdict.foldl (fun _ => List.contains_iff_mem) hscore (s.lanes board)

/-- Near the actor, the greatest alignment is the greatest projection. -/
theorem contest?_eq_laneFor? (h : s.grid.Within 22 c) :
    s.contest? board c = (DashSurvey.of s board).laneFor? c :=
  Verdict.eq (verdict_contest? board fun _ _ => h.fitsWorse_iff_projection_lt _ _)
    (s.verdict_laneFor? board c)

end Dash

/-- A contested cell goes to the lane, or to the dash, that reaches farthest towards it among those
that have it, and to the first of several that reach equally far; the actor's own cell goes to the
first dash that has it. If alignments are compared as doubles, lane after lane, the cell goes to the
first of those with the greatest alignment, within `2 ^ 50` rows and columns of the actor and so
wherever coordinates have 32 bits. Within `2 ^ 22` that is the same lane. -/
theorem contested_cell_goes_to_first_best :
    (∀ (s : Directional) (board : Board) (c : Cell),
      let chosen := (DirectionalSurvey.of s board).bestPattern? c
      (chosen.isSome = true ↔ ∃ lane ∈ s.lanes, lane.Offers board c) ∧
      (∀ lane, chosen = some lane ↔
        FirstBest (·.Offers board c) (fun l => s.grid.projection c l.direction) s.lanes lane) ∧
      (s.grid.Within 50 c →
        Verdict (·.Offers board c) (fun l => s.grid.alignment c l.direction) s.lanes
          (s.contest? board c)) ∧
      (s.grid.Within 22 c → s.contest? board c = chosen)) ∧
    ∀ (s : Dash) (board : Board) (c : Cell),
      let chosen := (DashSurvey.of s board).laneFor? c
      (chosen.isSome = true ↔ ∃ lane ∈ s.lanes board, c ∈ lane.hits) ∧
      (∀ lane, chosen = some lane ↔
        FirstBest (c ∈ ·.hits) (fun l => s.grid.projection c l.direction) (s.lanes board) lane) ∧
      (c = s.grid.center → chosen = (s.lanes board).find? (·.hits.contains c)) ∧
      (s.grid.Within 50 c →
        Verdict (c ∈ ·.hits) (fun l => s.grid.alignment c l.direction) (s.lanes board)
          (s.contest? board c)) ∧
      (s.grid.Within 22 c → s.contest? board c = chosen) := by
  refine ⟨fun s board c => ?_, fun s board c => ?_⟩
  · have hverdict := s.verdict_bestPattern? board c
    refine ⟨hverdict.isSome_iff, fun lane => hverdict.eq_some_iff, fun hwithin => ?_,
      s.contest?_eq_bestPattern? board c⟩
    exact Directional.verdict_contest? board fun _ _ => hwithin.fitsWorse_iff_alignment_lt _ _
  · have hverdict := s.verdict_laneFor? board c
    refine ⟨hverdict.isSome_iff, fun lane => hverdict.eq_some_iff, ?_, fun hwithin => ?_,
      s.contest?_eq_laneFor? board c⟩
    · rintro rfl
      exact s.laneFor?_center board
    · exact Dash.verdict_contest? board fun _ _ => hwithin.fitsWorse_iff_alignment_lt _ _

/-- The lane to the east fits the cell better, but once its only cell is barred the cell goes to
the lane to the north. -/
example :
    let lanes : List Lane := [⟨.north, [⟨5, 7⟩], [⟨6, 9⟩]⟩, ⟨.east, [⟨7, 9⟩], [⟨6, 9⟩]⟩]
    let s : Directional := ⟨.standard, "", lanes, .pattern .everywhere, false, false⟩
    let barred : Board := ⟨.standard, CellSet.empty.insert ⟨7, 8⟩⟩
    ((DirectionalSurvey.of s (.empty .standard)).bestPattern? ⟨6, 9⟩).map (·.direction) =
        some .east ∧
      ((DirectionalSurvey.of s barred).bestPattern? ⟨6, 9⟩).map (·.direction) = some .north := by
  decide +kernel

end Reticle
