import Reticle.Proofs.Dividing
import Reticle.Proofs.WholeNumbers
import Reticle.Scenario.Aiming

/-!
# How well directions fit

How far a displacement reaches along a direction is its projection on the direction. Directions are
compared by a whole number, which grows with the projection (`alignmentRank_lt_iff`). As doubles,
projections carry the rounding of a square root and of a quotient; for displacements up to `2 ^ 22`
that never changes which of two directions fits better, because the squares of two projections that
differ are at least a half apart (`isBelow_alignment_iff`).
-/

namespace Reticle.Direction

open Number

/-- How far a displacement reaches along a direction, in cells. -/
noncomputable def projection (d : Direction) (dRow dCol : Int) : ℝ :=
  d.dot dRow dCol / √d.lengthSquared

variable (d e : Direction) (dRow dCol : Int)

/-- A direction is one step along an axis or one along a diagonal. -/
theorem lengthSquared_cases : d.lengthSquared = 1 ∨ d.lengthSquared = 2 := by
  cases d <;> decide

/-- No direction is the zero vector. -/
theorem lengthSquared_pos : (0 : ℝ) < d.lengthSquared := by
  rcases d.lengthSquared_cases with h | h <;> norm_num [h]

/-! ### Ranks -/

/-- The whole number that ranks directions is twice the signed square of the projection on the
direction, whose length it thereby accounts for without a square root. -/
theorem alignmentRank_eq :
    (d.alignmentRank dRow dCol : ℝ) =
      2 * (d.projection dRow dCol * |d.projection dRow dCol|) := by
  have hlength := d.lengthSquared_pos
  have hscale : ((if d.isDiagonal then 1 else 2 : Int) : ℝ) = 2 / d.lengthSquared := by
    cases d <;> norm_num [isDiagonal, lengthSquared, row, col]
  have hroot : √(d.lengthSquared : ℝ) * √(d.lengthSquared : ℝ) = d.lengthSquared :=
    Real.mul_self_sqrt hlength.le
  unfold alignmentRank projection
  rw [Int.cast_mul, hscale, abs_div, abs_of_pos (Real.sqrt_pos.2 hlength), div_mul_div_comm, hroot,
    Int.cast_mul, ← Int.abs_eq_natAbs, Int.cast_abs]
  ring

/-- The signed square is strictly increasing, so comparing signed squares compares the numbers. -/
theorem strictMono_mul_abs : StrictMono fun x : ℝ => x * |x| := by
  refine strictMono_of_odd_strictMonoOn_nonneg (fun x => ?_) fun x hx y hy hxy => ?_
  · rw [abs_neg, neg_mul]
  · show x * |x| < y * |y|
    rw [abs_of_nonneg hx, abs_of_nonneg hy]
    exact mul_self_lt_mul_self hx hxy

/-- A direction has the greater rank if the displacement reaches farther along it. -/
theorem alignmentRank_lt_iff :
    d.alignmentRank dRow dCol < e.alignmentRank dRow dCol ↔
      d.projection dRow dCol < e.projection dRow dCol := by
  rw [← Int.cast_lt (R := ℝ), alignmentRank_eq, alignmentRank_eq,
    mul_lt_mul_iff_right₀ (by norm_num : (0 : ℝ) < 2)]
  exact strictMono_mul_abs.lt_iff_lt

/-! ### Doubles -/

/-- A displacement of at most `2 ^ n` rows and columns. -/
structure Within (n : Nat) (dRow dCol : Int) : Prop where
  row : |dRow| ≤ 2 ^ n
  col : |dCol| ≤ 2 ^ n

variable {d e dRow dCol} {n : Nat}

/-- What lies within a bound lies within every larger one. -/
theorem Within.mono {m : Nat} (h : Within m dRow dCol) (hmn : m ≤ n) : Within n dRow dCol :=
  have hpow : (2 : Int) ^ m ≤ 2 ^ n := pow_le_pow_right₀ (by norm_num) hmn
  ⟨h.row.trans hpow, h.col.trans hpow⟩

/-- The product with a direction, of two summands at most, needs one binary digit more than the
displacement. -/
theorem Within.abs_dot_le (h : Within n dRow dCol) : |d.dot dRow dCol| ≤ 2 ^ (n + 1) := by
  obtain ⟨hrow, hcol⟩ := h
  unfold dot
  rw [abs_le, pow_succ] at *
  cases d <;> simp only [Direction.row, Direction.col] <;> omega

/-- The projection is no longer than the product it is a quotient of. -/
theorem Within.abs_projection_le (h : Within n dRow dCol) :
    |d.projection dRow dCol| ≤ 2 ^ (n + 1) := by
  have hdot : |(d.dot dRow dCol : ℝ)| ≤ 2 ^ (n + 1) := by exact_mod_cast h.abs_dot_le
  have hone : (1 : ℝ) ≤ √d.lengthSquared := by
    rw [Real.one_le_sqrt]
    rcases d.lengthSquared_cases with h | h <;> norm_num [h]
  unfold projection
  rw [abs_div, abs_of_nonneg (Real.sqrt_nonneg _)]
  exact (div_le_self (abs_nonneg _) hone).trans hdot

/-- Twice the square of a projection is a whole number. -/
theorem exists_two_mul_projection_sq (d : Direction) (dRow dCol : Int) :
    ∃ n : Int, 2 * d.projection dRow dCol ^ 2 = n := by
  refine ⟨(if d.isDiagonal then 1 else 2) * d.dot dRow dCol ^ 2, ?_⟩
  unfold projection
  rw [div_pow, Real.sq_sqrt d.lengthSquared_pos.le]
  cases d <;> norm_num [isDiagonal, lengthSquared, row, col] <;> ring

/-- Numbers of which the squares are at least a half apart are not too close. -/
theorem separated {x y : ℝ} (hx : ∃ n : Int, 2 * x ^ 2 = n) (hy : ∃ n : Int, 2 * y ^ 2 = n)
    (hxle : |x| ≤ 2 ^ 23) (hyle : |y| ≤ 2 ^ 23) (hlt : x < y) :
    2 ^ (-51 : Int) * (|x| + |y|) < y - x := by
  obtain ⟨m, hm⟩ := hx
  obtain ⟨n, hn⟩ := hy
  have hsum : |y + x| ≤ |x| + |y| := by
    rw [add_comm (|x|)]
    exact abs_add_le y x
  by_cases hsq : x ^ 2 = y ^ 2
  · -- Numbers of one size are apart by twice that size.
    obtain rfl : x = -y := (sq_eq_sq_iff_eq_or_eq_neg.1 hsq).resolve_left hlt.ne
    have hpos : 0 < y := by linarith
    rw [abs_neg, abs_of_pos hpos]
    norm_num
    linarith
  · have hne : m ≠ n := by
      rintro rfl
      exact hsq (by linarith)
    have hhalf : 1 / 2 ≤ |y ^ 2 - x ^ 2| := by
      have hone : (1 : ℝ) ≤ |(n - m : ℝ)| := by
        exact_mod_cast Int.one_le_abs (sub_ne_zero.2 hne.symm)
      have hdiff : y ^ 2 - x ^ 2 = (n - m) / 2 := by linarith
      rw [hdiff, abs_div, abs_two]
      linarith
    have hfactor : |y ^ 2 - x ^ 2| = (y - x) * |y + x| := by
      rw [show y ^ 2 - x ^ 2 = (y - x) * (y + x) by ring, abs_mul, abs_of_pos (sub_pos.2 hlt)]
    have hsumle : |x| + |y| ≤ 2 ^ 24 := by linarith
    have hproduct : 1 / 2 ≤ (y - x) * (|x| + |y|) :=
      hhalf.trans (hfactor ▸ mul_le_mul_of_nonneg_left hsum (sub_pos.2 hlt).le)
    by_contra hclose
    have hbound := mul_le_mul_of_nonneg_right (not_lt.1 hclose)
      (add_nonneg (abs_nonneg x) (abs_nonneg y))
    have hsquare : (|x| + |y|) * (|x| + |y|) ≤ 2 ^ 24 * 2 ^ 24 :=
      mul_self_le_mul_self (add_nonneg (abs_nonneg x) (abs_nonneg y)) hsumle
    norm_num at hbound
    linarith

/-- The length of a step, as a double. -/
theorem exists_exact_length (d : Direction) :
    ∃ w : Rat, exact (Float.ofInt d.lengthSquared).sqrt = .finite w ∧ 1 ≤ w ∧ w ≤ 2 ∧
      √d.lengthSquared ≤ w ∧ (w : ℝ) ≤ √d.lengthSquared * (1 + 2 ^ (-53 : Int)) := by
  rcases d.lengthSquared_cases with h | h
  · refine ⟨1, by rw [h]; decide +kernel, le_rfl, by norm_num, ?_⟩
    rw [h]
    norm_num
  · refine ⟨6369051672525773 / 2 ^ 52, by rw [h]; decide +kernel, by norm_num, by norm_num, ?_, ?_⟩
    · rw [h, Real.sqrt_le_left (by norm_num)]
      norm_num
    · have hroot : (6369051672525773 / 2 ^ 52 : ℝ) / (1 + 2 ^ (-53 : Int)) ≤ √2 := by
        apply Real.le_sqrt_of_sq_le
        norm_num
      rw [h, ← div_le_iff₀ (by positivity)]
      push_cast
      exact hroot

/-- A quotient by a slightly greater length is slightly smaller. -/
theorem abs_div_sub_div_le {p l w δ : ℝ} (hl : 0 < l) (hw : l ≤ w) (hδ : w ≤ l * (1 + δ)) :
    |p / w - p / l| ≤ δ * |p / l| := by
  have hw0 : 0 < w := hl.trans_le hw
  have hdiff : p / w - p / l = (l - w) / w * (p / l) := by
    field_simp
  have hratio : |(l - w) / w| ≤ δ := by
    rw [abs_div, abs_of_pos hw0, abs_of_nonpos (by linarith), div_le_iff₀ hw0]
    nlinarith
  rw [hdiff, abs_mul]
  exact mul_le_mul_of_nonneg_right hratio (abs_nonneg _)

/-- An alignment is a double close to the projection. -/
theorem exists_near_alignment (d : Direction) {dRow dCol : Int} (h : Within 50 dRow dCol) :
    ∃ v : Rat, exact (d.alignment dRow dCol) = .finite v ∧
      |(v : ℝ) - d.projection dRow dCol| ≤ 2 ^ (-51 : Int) * |d.projection dRow dCol| := by
  obtain ⟨w, hw, hone, htwo, hlow, hhigh⟩ := d.exists_exact_length
  have hlength : 0 < √(d.lengthSquared : ℝ) := Real.sqrt_pos.2 d.lengthSquared_pos
  have hw0 : 0 < w := by linarith
  have hdot : exact (Float.ofInt (d.dot dRow dCol)) = .finite (d.dot dRow dCol) :=
    exact_ofInt (h.abs_dot_le.trans_lt (by norm_num))
  have hdotle : |d.dot dRow dCol| ≤ 2 ^ 51 := h.abs_dot_le
  unfold alignment projection
  generalize d.dot dRow dCol = p at *
  by_cases hzero : p = 0
  · subst hzero
    rw [Int.cast_zero] at hdot
    exact ⟨0, exact_zero_div hdot hw hw0.ne', by simp⟩
  · have hsize : 1 / 2 ≤ |(p : Rat) / w| ∧ |(p : Rat) / w| ≤ 2 ^ 51 := by
      have hle : |(p : Rat)| ≤ 2 ^ 51 := by exact_mod_cast hdotle
      have hge : 1 ≤ |(p : Rat)| := by exact_mod_cast Int.one_le_abs hzero
      rw [abs_div, abs_of_pos hw0, div_le_div_iff₀ (by norm_num) hw0, div_le_iff₀ hw0]
      constructor <;> nlinarith
    have hsmall : (2 : Rat) ^ (-1000 : Int) ≤ 1 / 2 := by
      rw [one_div, ← zpow_neg_one]
      exact zpow_le_zpow_right₀ (by norm_num) (by norm_num)
    have hlarge : (2 : Rat) ^ 51 ≤ 2 ^ (1000 : Int) := by
      rw [← zpow_natCast]
      exact zpow_le_zpow_right₀ (by norm_num) (by norm_num)
    obtain ⟨v, hv, hnear⟩ :=
      exists_near_div hdot hw (hsmall.trans hsize.1) (hsize.2.trans hlarge)
    refine ⟨v, hv, ?_⟩
    have hrounded : |(v : ℝ) - p / w| ≤ 2 ^ (-52 : Int) * |(p : ℝ) / w| := by
      have hcast := (Rat.cast_le (K := ℝ)).2 hnear
      push_cast at hcast
      exact hcast
    -- Two errors add up: that of the quotient in doubles and that of the length divided by.
    have hlonger := abs_div_sub_div_le (p := p) hlength hlow hhigh
    have hshorter : |(p : ℝ) / w| ≤ |(p : ℝ) / √d.lengthSquared| := by
      rw [abs_div, abs_div, abs_of_pos hlength, abs_of_pos (hlength.trans_le hlow)]
      exact div_le_div_of_nonneg_left (abs_nonneg _) hlength hlow
    have htriangle := abs_sub_le (v : ℝ) (p / w) (p / √d.lengthSquared)
    have hnonneg := abs_nonneg ((p : ℝ) / √d.lengthSquared)
    norm_num at hrounded hlonger ⊢
    linarith

/-- Within 50 binary digits the alignment computed in doubles neither overflows nor becomes a nan.
-/
theorem isFinite_alignment (d : Direction) {dRow dCol : Int} (h : Within 50 dRow dCol) :
    (d.alignment dRow dCol).isFinite = true := by
  obtain ⟨v, hv, -⟩ := d.exists_near_alignment h
  exact isFinite_iff.2 ⟨v, hv⟩

/-- Whole numbers, of which one is divided by the root of two, are equal only if they are zero. -/
theorem eq_zero_of_eq_div_sqrt_two {a b : Int} (h : (a : ℝ) = b / √2) : a = 0 := by
  by_contra ha
  have ha' : (a : ℝ) ≠ 0 := Int.cast_ne_zero.2 ha
  refine irrational_sqrt_two ⟨b / a, ?_⟩
  push_cast
  rw [eq_div_iff (by norm_num)] at h
  rw [← h, mul_comm, mul_div_assoc, div_self ha', mul_one]

/-- A displacement reaches equally far along two directions only if their alignments are the same,
or if it reaches nowhere along both. -/
theorem alignment_eq_of_projection_eq (h : d.projection dRow dCol = e.projection dRow dCol) :
    d.projection dRow dCol = 0 ∨ d.alignment dRow dCol = e.alignment dRow dCol := by
  have hsame : ∀ l : Int, d.lengthSquared = l → e.lengthSquared = l → (0 : ℝ) < l →
      d.alignment dRow dCol = e.alignment dRow dCol := by
    intro l hd he hl
    unfold projection at h
    rw [hd, he, div_left_inj' (Real.sqrt_pos.2 hl).ne', Int.cast_inj] at h
    unfold alignment
    rw [h, hd, he]
  rcases d.lengthSquared_cases with hd | hd <;> rcases e.lengthSquared_cases with he | he
  · exact .inr (hsame 1 hd he (by norm_num))
  · unfold projection at h ⊢
    rw [hd, he] at h
    norm_num [hd] at h ⊢
    exact .inl (eq_zero_of_eq_div_sqrt_two h)
  · rw [h]
    unfold projection at h ⊢
    rw [hd, he] at h
    norm_num [he] at h ⊢
    exact .inl (eq_zero_of_eq_div_sqrt_two h.symm)
  · exact .inr (hsame 2 hd he (by norm_num))

/-- One alignment is below another exactly if the displacement reaches less far. -/
theorem isBelow_alignment_iff (d e : Direction) {dRow dCol : Int} (h : Within 22 dRow dCol) :
    (exact (d.alignment dRow dCol)).isBelow (exact (e.alignment dRow dCol)) = true ↔
      d.projection dRow dCol < e.projection dRow dCol := by
  have hwide : Within 50 dRow dCol := h.mono (by norm_num)
  obtain ⟨v, hv, hvnear⟩ := d.exists_near_alignment hwide
  obtain ⟨w, hw, hwnear⟩ := e.exists_near_alignment hwide
  have hlt : ∀ {x y a b : ℝ}, |a - x| ≤ 2 ^ (-51 : Int) * |x| → |b - y| ≤ 2 ^ (-51 : Int) * |y| →
      2 ^ (-51 : Int) * (|x| + |y|) < y - x → a < b := by
    intro x y a b ha hb hxy
    rw [mul_add] at hxy
    linarith [(abs_le.1 ha).2, (abs_le.1 hb).1]
  have hd := d.exists_two_mul_projection_sq dRow dCol
  have he := e.exists_two_mul_projection_sq dRow dCol
  rw [hv, hw]
  show decide (v < w) = true ↔ _
  rw [decide_eq_true_iff, ← Rat.cast_lt (K := ℝ)]
  -- Different projections are far enough apart for their doubles to be in the same order; equal
  -- ones belong to one direction or are zero.
  rcases lt_trichotomy (d.projection dRow dCol) (e.projection dRow dCol) with hless | heq | hmore
  · exact iff_of_true
      (hlt hvnear hwnear (separated hd he h.abs_projection_le h.abs_projection_le hless)) hless
  · refine iff_of_false ?_ heq.not_lt
    rcases alignment_eq_of_projection_eq heq with hzero | hsame
    · rw [hzero, abs_zero, mul_zero, sub_zero] at hvnear
      rw [← heq, hzero, abs_zero, mul_zero, sub_zero] at hwnear
      rw [abs_nonpos_iff.1 hvnear, abs_nonpos_iff.1 hwnear]
      exact lt_irrefl 0
    · rw [hsame, hw] at hv
      rw [Extended.finite.inj hv]
      exact lt_irrefl _
  · exact iff_of_false
      (hlt hwnear hvnear (separated he hd h.abs_projection_le h.abs_projection_le hmore)).not_gt
      hmore.not_gt

end Reticle.Direction
