import Reticle.Proofs.Aligning
import Reticle.Proofs.CheckedNumbers
import Reticle.Proofs.Motions
import Reticle.Proofs.Quotients
import Reticle.Proofs.WholeNumbers

/-!
# Clipping with doubles

The loop `crossesRounded` clips a segment against the four sides of a square one after the other,
with doubles in place of fractions, and stops where nothing is left. As doubles the sides are exact
(`agrees_sides`), but their parameters are rounded quotients. In each round the two ends stay
quotients that doubles tell apart (`Span.Follows.narrow`), so the loop stops where the exact clip
has nothing left, and comes to the same answer (`crossesRounded_eq`). Main statement: clipping
decides whether a segment and a square have more than one point in common
(`crosses_decides_intersection`).
-/

namespace Reticle

open Number

/-! ## The loop -/

/-- What is left of a segment, between two parameters that are doubles. -/
structure Span where
  enter : Float
  leave : Float

namespace Span

/-- The whole segment. -/
def whole : Span :=
  ⟨0, 1⟩

/-- What is left where `p * t ≤ q` for the parameter `t`, unless that is nothing. -/
def narrow (s : Span) (side : Float × Float) : Option Span :=
  let (p, q) := side
  if isZero p then
    if (exact q).isBelow (.finite 0) then none else some s
  else
    let t := q / p
    if (exact p).isBelow (.finite 0) then
      if (exact s.leave).isBelow (exact t) then none else some { s with enter := larger s.enter t }
    else
      if (exact t).isBelow (exact s.enter) then none else some { s with leave := smaller s.leave t }

end Span

/-- The two sides of a square across one axis, as inequalities for the parameter of a segment. -/
def roundedSides (start goal middle : Int) : List (Float × Float) :=
  let first := Float.ofInt middle - 0.5
  let last := Float.ofInt middle + 0.5
  let origin := Float.ofInt start
  let delta := Float.ofInt goal - origin
  [(-delta, origin - first), (delta, last - origin)]

/-- `crosses`, by a loop that narrows the segment against the four sides with doubles. -/
def crossesRounded (cell start goal : Cell) : Bool :=
  if start = goal then decide (cell = start)
  else
    let sides := roundedSides start.col goal.col cell.col ++
      roundedSides start.row goal.row cell.row
    match sides.foldlM Span.narrow .whole with
    | some s => (exact s.enter).isBelow (exact s.leave)
    | none => false

/-! ## One round -/

namespace Stretch

/-- A part of the segment. -/
structure IsPart (s : Stretch) : Prop where
  enter_nonneg : 0 ≤ s.enter
  enter_le_leave : s.enter ≤ s.leave
  leave_le_one : s.leave ≤ 1

namespace IsPart

variable {s : Stretch}

/-- A part of the segment is entered within one of its start. -/
theorem abs_enter_le (h : s.IsPart) : |s.enter| ≤ 1 := by
  rw [abs_of_nonneg h.enter_nonneg]
  exact h.enter_le_leave.trans h.leave_le_one

/-- A part of the segment is left within one of its start. -/
theorem abs_leave_le (h : s.IsPart) : |s.leave| ≤ 1 := by
  rw [abs_of_nonneg (h.enter_nonneg.trans h.enter_le_leave)]
  exact h.leave_le_one

end IsPart

end Stretch

namespace Span

/-- The ends of the span come from dividing doubles, with the ends of a part of the segment as the
true quotients. -/
structure Follows (s : Span) (r : Stretch) : Prop where
  enter : IsQuotient s.enter r.enter
  leave : IsQuotient s.leave r.leave
  isPart : r.IsPart

/-- Before any clip the span follows the segment. -/
theorem follows_whole : whole.Follows .whole :=
  ⟨isQuotient_zero, isQuotient_one, ⟨le_rfl, zero_le_one, le_rfl⟩⟩

/-- A side in doubles is exact, and where it is met is a fraction with a small denominator. -/
structure Agrees (side : Float × Float) (exactSide : Rat × Rat) : Prop where
  fst : exact side.1 = .finite exactSide.1
  snd : exact side.2 = .finite exactSide.2
  den_le : exactSide.1 ≠ 0 → (exactSide.2 / exactSide.1).den ≤ 2 ^ 25
  abs_le : |exactSide.2 / exactSide.1| ≤ 2 ^ 53

/-- Dividing the halves of a side gives a quotient for the exact side. -/
theorem Agrees.isQuotient {side : Float × Float} {p q : Rat} (h : Agrees side (p, q)) (hp : p ≠ 0) :
    IsQuotient (side.2 / side.1) (q / p) :=
  ⟨⟨_, _, _, _, h.snd, h.fst, hp, rfl, rfl⟩, h.den_le hp, h.abs_le⟩

/-- A round of the loop ends it exactly where the exact clip has nothing left, and else follows the
clip. -/
theorem Follows.narrow {s : Span} {r : Stretch} (h : s.Follows r) {side : Float × Float} {p q : Rat}
    (hside : Agrees side (p, q)) : Option.Rel Follows (s.narrow side) (r.clip p q) := by
  have hzero : isZero side.1 = true ↔ p = 0 := by
    unfold isZero
    rw [hside.fst]
    simp
  have hnegative : ∀ {x : Float} {a : Rat}, exact x = .finite a →
      ((exact x).isBelow (.finite 0) = true ↔ a < 0) := by
    intro x a hx
    rw [hx]
    exact decide_eq_true_iff
  unfold Span.narrow Stretch.clip
  rw [← max_def, ← min_def]
  dsimp only
  simp only [hzero, hnegative hside.fst, hnegative hside.snd]
  rcases lt_trichotomy p 0 with hp | rfl | hp
  · have ht := hside.isQuotient hp.ne
    -- The side is entered: its quotient is compared with the end, and may become the new start.
    simp only [if_neg hp.ne, if_pos hp, h.leave.isBelow_iff ht (.inl h.isPart.abs_leave_le)]
    split_ifs with hlt
    · exact .none
    · exact .some ⟨h.enter.larger ht h.isPart.abs_enter_le, h.leave,
        h.isPart.enter_nonneg.trans (le_max_left _ _),
        max_le h.isPart.enter_le_leave (not_lt.1 hlt), h.isPart.leave_le_one⟩
  · simp only [if_true]
    split_ifs
    · exact .none
    · exact .some h
  · have ht := hside.isQuotient hp.ne'
    simp only [if_neg hp.ne', if_neg hp.not_gt, ht.isBelow_iff h.enter (.inr h.isPart.abs_enter_le)]
    split_ifs with hlt
    · exact .none
    · exact .some ⟨h.enter, h.leave.smaller ht h.isPart.abs_leave_le, h.isPart.enter_nonneg,
        le_min h.isPart.enter_le_leave (not_lt.1 hlt),
        (min_le_left _ _).trans h.isPart.leave_le_one⟩

/-- The loop follows the exact clips. -/
theorem Follows.foldlM_narrow {sides : List (Float × Float)} {exactSides : List (Rat × Rat)}
    (hsides : List.Forall₂ Agrees sides exactSides) {s : Span} {r : Stretch} (h : s.Follows r) :
    Option.Rel Follows (sides.foldlM Span.narrow s)
      (exactSides.foldlM (fun r side => r.clip side.1 side.2) r) := by
  induction hsides generalizing s r with
  | nil => exact .some h
  | cons hside hsides ih =>
    rw [List.foldlM_cons, List.foldlM_cons]
    have hround := h.narrow hside
    generalize s.narrow _ = s' at hround ⊢
    generalize r.clip _ _ = r' at hround ⊢
    cases hround with
    | none => exact .none
    | some hnext => exact ih hnext

end Span

/-! ## The sides of a square -/

/-- The two sides of a square across one axis, exactly. -/
def exactSides (start goal middle : Int) : List (Rat × Rat) :=
  [(-(goal - start), start - (middle - 1 / 2)), (goal - start, middle + 1 / 2 - start)]

/-- The stretch of a segment inside a cell is clipped at the four exact sides. -/
theorem stretchInside_eq (cell start goal : Cell) :
    stretchInside cell start goal =
      (exactSides start.col goal.col cell.col ++ exactSides start.row goal.row cell.row).foldlM
        (fun r side => r.clip side.1 side.2) .whole := by
  unfold stretchInside Stretch.clipAxis exactSides
  simp [Option.bind_assoc]

/-- A double that is half a whole number. -/
def IsHalf (x : Float) (n : Int) : Prop :=
  exact x = .finite (n / 2)

namespace IsHalf

variable {x y : Float} {m n : Int}

/-- Halves of moderate size are not rounded. -/
theorem of_rounds {q : Rat} (hx : Rounds q (exact x)) (hq : q = n / 2) (hlt : |n| < 2 ^ 53) :
    IsHalf x n := by
  unfold IsHalf
  rw [← hq]
  refine hx.eq_finite ?_
  by_cases hzero : n = 0
  · exact .inl (by rw [hq, hzero, Int.cast_zero, zero_div])
  · exact .inr (hq ▸ isNormal_half hzero hlt)

/-- A whole number is half its double. -/
theorem ofInt (hlt : |n| < 2 ^ 53) : IsHalf (Float.ofInt n) (2 * n) := by
  unfold IsHalf
  rw [exact_ofInt hlt, Int.cast_mul, Int.cast_ofNat, mul_div_cancel_left₀ _ two_ne_zero]

/-- One half is half of one. -/
theorem half : IsHalf 0.5 1 := by
  unfold IsHalf
  rw [exact_half, Int.cast_one]

/-- The negative of a half is the half of the negative. -/
theorem neg (hx : IsHalf x n) : IsHalf (-x) (-n) := by
  unfold IsHalf at hx ⊢
  rw [exact_neg hx, Int.cast_neg, neg_div]

/-- Halves of moderate size are added without rounding. -/
theorem add (hx : IsHalf x m) (hy : IsHalf y n) (hlt : |m + n| < 2 ^ 53) :
    IsHalf (x + y) (m + n) :=
  .of_rounds (rounds_add hx hy) (by rw [Int.cast_add, add_div]) hlt

/-- Halves of moderate size are subtracted without rounding. -/
theorem sub (hx : IsHalf x m) (hy : IsHalf y n) (hlt : |m - n| < 2 ^ 53) :
    IsHalf (x - y) (m - n) :=
  .of_rounds (rounds_sub hx hy) (by rw [Int.cast_sub, sub_div]) hlt

/-- A side of halves agrees with the exact side. -/
theorem agrees {p q : Rat} (hx : IsHalf x m) (hy : IsHalf y n) (hp : p = m / 2) (hq : q = n / 2)
    (hm : |m| ≤ 2 ^ 25) (hn : |n| ≤ 2 ^ 53) : Span.Agrees (x, y) (p, q) := by
  have hfraction : q / p = Rat.divInt n m := by
    rw [hp, hq, Rat.divInt_eq_div, div_div_div_cancel_right₀ two_ne_zero]
  refine ⟨hp ▸ hx, hq ▸ hy, fun hne => ?_, ?_⟩
  · have hm0 : m ≠ 0 := by
      rintro rfl
      simp [hp] at hne
    have hle := Int.le_of_dvd (abs_pos.2 hm0) ((dvd_abs _ _).2 (Rat.den_dvd n m))
    rw [← hfraction] at hle
    exact_mod_cast hle.trans hm
  · have hle : |(Rat.divInt n m)| ≤ |(n : Rat)| := by
      rw [Rat.divInt_eq_div, abs_div]
      by_cases hm0 : m = 0
      · simp [hm0]
      · exact div_le_self (abs_nonneg _) (by exact_mod_cast Int.one_le_abs hm0)
    rw [hfraction]
    exact hle.trans (by exact_mod_cast hn)

end IsHalf

/-- The sides of a square are exact, where coordinates have 32 bits. -/
theorem agrees_sides {start goal middle : Int} (hstart : -0x80000000 ≤ start ∧ start ≤ 0x7FFFFFFF)
    (hgoal : -0x80000000 ≤ goal ∧ goal ≤ 0x7FFFFFFF)
    (hmiddle : -0x80000000 ≤ middle ∧ middle ≤ 0x7FFFFFFF) (hnear : |goal - start| ≤ 2 ^ 24) :
    List.Forall₂ Span.Agrees (roundedSides start goal middle) (exactSides start goal middle) := by
  rw [abs_le] at hnear
  have hwhole : ∀ {n : Int}, -0x80000000 ≤ n ∧ n ≤ 0x7FFFFFFF → IsHalf (Float.ofInt n) (2 * n) :=
    fun h => .ofInt (by rw [abs_lt]; omega)
  have hfirst := (hwhole hmiddle).sub .half (by rw [abs_lt]; omega)
  have hlast := (hwhole hmiddle).add .half (by rw [abs_lt]; omega)
  have hdelta := (hwhole hgoal).sub (hwhole hstart) (by rw [abs_lt]; omega)
  have hbefore := (hwhole hstart).sub hfirst (by rw [abs_lt]; omega)
  have hbehind := hlast.sub (hwhole hstart) (by rw [abs_lt]; omega)
  unfold roundedSides exactSides
  rw [List.forall₂_cons, List.forall₂_cons]
  refine ⟨hdelta.neg.agrees hbefore ?_ ?_ ?_ ?_, hdelta.agrees hbehind ?_ ?_ ?_ ?_, .nil⟩
  · push_cast
    ring
  · push_cast
    ring
  · rw [abs_le]
    omega
  · rw [abs_le]
    omega
  · push_cast
    ring
  · push_cast
    ring
  · rw [abs_le]
    omega
  · rw [abs_le]
    omega

/-! ## The answer -/

/-- Where coordinates have 32 bits and the ends of the segment are not too far apart, clipping with
doubles comes to the same answer. -/
theorem crossesRounded_eq {cell start goal : Cell} (hcell : cell.IsAddress)
    (hstart : start.IsAddress) (hgoal : goal.IsAddress)
    (hnear : Direction.Within 24 (goal.row - start.row) (goal.col - start.col)) :
    crossesRounded cell start goal = crosses cell start goal := by
  have hcols := agrees_sides hstart.2 hgoal.2 hcell.2 hnear.col
  have hrows := agrees_sides hstart.1 hgoal.1 hcell.1 hnear.row
  have hfollows := Span.follows_whole.foldlM_narrow (List.rel_append hcols hrows)
  rw [← stretchInside_eq] at hfollows
  unfold crossesRounded crosses
  by_cases hne : start = goal
  · rw [if_pos hne, if_pos hne]
  · rw [if_neg hne, if_neg hne]
    dsimp only
    generalize (List.foldlM Span.narrow Span.whole _ : Option Span) = left at hfollows ⊢
    generalize stretchInside cell start goal = inside at hfollows ⊢
    cases hfollows with
    | none => rfl
    | some h =>
      rw [Bool.eq_iff_iff, decide_eq_true_iff]
      exact h.enter.isBelow_iff h.leave (.inl h.isPart.abs_enter_le)

/-- A segment crosses a cell exactly if it has more than one point in common with the closed square
of the cell. Doubles decide that as well, for 32-bit coordinates and segments of at most `2 ^ 24`
rows and columns. So a segment crosses the same cells from either end, and a motion of the three
cells, such as a translation, a quarter turn or a reflection, changes nothing. -/
theorem crosses_decides_intersection {cell start goal : Cell} (hne : start ≠ goal) :
    (crosses cell start goal = true ↔
      (segment ℝ start.point goal.point ∩ cell.square).Nontrivial) ∧
    (cell.IsAddress → start.IsAddress → goal.IsAddress →
      Direction.Within 24 (goal.row - start.row) (goal.col - start.col) →
      crossesRounded cell start goal = crosses cell start goal) ∧
    crosses cell goal start = crosses cell start goal ∧
    ∀ m : Motion, crosses (m cell) (m start) (m goal) = crosses cell start goal :=
  ⟨crosses_iff_nontrivial hne, crossesRounded_eq, crosses_comm cell start goal,
    fun m => m.crosses_eq cell start goal⟩

/-- The segment runs through a corner of the cell. What is left of it is a single point, also with
doubles: the sides that meet in the corner divide different numbers, with equal quotients. -/
theorem crosses_decides_intersection_example :
    let cell : Cell := ⟨1, 1⟩
    let start : Cell := ⟨0, 0⟩
    let goal : Cell := ⟨3, 9⟩
    start ≠ goal ∧ cell.IsAddress ∧ start.IsAddress ∧ goal.IsAddress ∧
      Direction.Within 24 (goal.row - start.row) (goal.col - start.col) ∧
      ¬ (segment ℝ start.point goal.point ∩ cell.square).Nontrivial ∧
      crossesRounded cell start goal = false ∧ crosses cell goal start = false ∧
      ∀ m ∈ [Motion.translation 4 (-2), .quarterTurn ⟨2, 5⟩, .reflection .southEast ⟨0, 7⟩],
        crosses (m cell) (m start) (m goal) = false := by
  have hne : (⟨0, 0⟩ : Cell) ≠ ⟨3, 9⟩ := by decide
  have hnear : Direction.Within 24 (3 - 0) (9 - 0) := ⟨by decide, by decide⟩
  have haddress : (⟨1, 1⟩ : Cell).IsAddress ∧ (⟨0, 0⟩ : Cell).IsAddress ∧
      (⟨3, 9⟩ : Cell).IsAddress := by decide
  obtain ⟨hcell, hstart, hgoal⟩ := haddress
  have hmisses : crosses ⟨1, 1⟩ ⟨0, 0⟩ ⟨3, 9⟩ = false := by decide +kernel
  obtain ⟨hshared, hrounded, hback, hmoved⟩ := @crosses_decides_intersection ⟨1, 1⟩ _ _ hne
  refine ⟨hne, hcell, hstart, hgoal, hnear, ?_, ?_, hback.trans hmisses,
    fun m _ => (hmoved m).trans hmisses⟩
  · rw [← hshared, hmisses]
    exact Bool.false_ne_true
  · exact (hrounded hcell hstart hgoal hnear).trans hmisses

end Reticle
