import Reticle.Proofs.Dividing

/-!
# Quotients that doubles tell apart

Fractions with denominators up to `2 ^ 25` that differ are apart by more than `2 ^ -51`. A double
that comes from a division is off by less, if the quotient is no greater than one; and doubles that
come from equal quotients are the same, whatever was divided. So comparing the doubles is comparing
the quotients, as long as one of them is at most one (`IsQuotient.isBelow_iff`).
-/

namespace Reticle.Number

/-! ### Fractions -/

/-- Fractions that differ are apart by a fraction with the product of their denominators. -/
theorem one_le_abs_sub_mul_den {a b : Rat} (hne : a ≠ b) : 1 ≤ |a - b| * (a.den * b.den) := by
  have hwhole : (a - b) * (a.den * b.den) = (a.num * b.den - b.num * a.den : Int) := by
    push_cast
    rw [← Rat.mul_den_eq_num a, ← Rat.mul_den_eq_num b]
    ring
  have hden : (0 : Rat) < a.den * b.den := by exact_mod_cast Nat.mul_pos a.den_pos b.den_pos
  have hnonzero : a.num * b.den - b.num * a.den ≠ 0 := by
    intro hzero
    rw [hzero, Int.cast_zero, mul_eq_zero, sub_eq_zero] at hwhole
    exact hwhole.elim hne hden.ne'
  rw [← abs_of_pos hden, ← abs_mul, hwhole]
  exact_mod_cast Int.one_le_abs hnonzero

/-- Fractions with small denominators that differ, one of which is small, are not too close. -/
theorem lt_abs_sub_of_den_le {a b : Rat} (hne : a ≠ b) (ha : a.den ≤ 2 ^ 25) (hb : b.den ≤ 2 ^ 25)
    (hsmall : |a| ≤ 1) : 2 ^ (-52 : Int) * (|a| + |b|) < |a - b| := by
  have hden : (a.den * b.den : Rat) ≤ 2 ^ 25 * 2 ^ 25 := by
    exact_mod_cast Nat.mul_le_mul ha hb
  have happart : 1 ≤ |a - b| * (2 ^ 25 * 2 ^ 25) :=
    (one_le_abs_sub_mul_den hne).trans (mul_le_mul_of_nonneg_left hden (abs_nonneg _))
  have hother : |b| ≤ |a| + |a - b| := by
    have htriangle := abs_sub_abs_le_abs_sub b a
    rw [abs_sub_comm] at htriangle
    linarith
  norm_num at happart ⊢
  linarith

/-! ### Doubles that come from divisions -/

/-- A double that comes from dividing doubles, of which the true quotient is a fraction with a small
denominator. -/
structure IsQuotient (x : Float) (a : Rat) : Prop where
  exists_div : ∃ u v p q, exact u = .finite p ∧ exact v = .finite q ∧ q ≠ 0 ∧ a = p / q ∧ x = u / v
  den_le : a.den ≤ 2 ^ 25
  abs_le_two_pow : |a| ≤ 2 ^ 53

/-- Zero is a quotient. -/
theorem isQuotient_zero : IsQuotient 0 0 where
  exists_div :=
    ⟨0, 1, 0, 1, by decide +kernel, by decide +kernel, one_ne_zero, by norm_num, by decide +kernel⟩
  den_le := by norm_num
  abs_le_two_pow := by norm_num

/-- One is a quotient. -/
theorem isQuotient_one : IsQuotient 1 1 where
  exists_div :=
    ⟨1, 1, 1, 1, by decide +kernel, by decide +kernel, one_ne_zero, by norm_num, by decide +kernel⟩
  den_le := by norm_num
  abs_le_two_pow := by norm_num

namespace IsQuotient

variable {x y : Float} {a b : Rat}

/-- Unless it is zero, a fraction with a small denominator is not extremely small. -/
theorem two_pow_le_abs (h : IsQuotient x a) (hne : a ≠ 0) : (2 : Rat) ^ (-1000 : Int) ≤ |a| := by
  have hpart := one_le_abs_sub_mul_den hne
  rw [sub_zero, Rat.den_zero, Nat.cast_one, mul_one] at hpart
  have hden : (a.den : Rat) ≤ 2 ^ 25 := by exact_mod_cast h.den_le
  have hsize : 1 ≤ |a| * 2 ^ 25 := hpart.trans (mul_le_mul_of_nonneg_left hden (abs_nonneg a))
  have htiny : (2 : Rat) ^ (-1000 : Int) ≤ 2 ^ (-25 : Int) :=
    zpow_le_zpow_right₀ (by norm_num) (by norm_num)
  refine htiny.trans ?_
  rw [zpow_neg, inv_le_iff_one_le_mul₀ (by positivity)]
  exact_mod_cast hsize

/-- The double is next to the true quotient. -/
theorem exists_near (h : IsQuotient x a) :
    ∃ v, exact x = .finite v ∧ |v - a| ≤ 2 ^ (-52 : Int) * |a| := by
  obtain ⟨u, v, p, q, hu, hv, hq, rfl, rfl⟩ := h.exists_div
  by_cases hp : p = 0
  · subst hp
    exact ⟨0, exact_zero_div hu hv hq, by simp⟩
  · have hlarge : (2 : Rat) ^ 53 ≤ 2 ^ (1000 : Int) := by
      rw [← zpow_natCast]
      exact zpow_le_zpow_right₀ (by norm_num) (by norm_num)
    have hsmall := h.two_pow_le_abs (div_ne_zero hp hq)
    exact exists_near_div hu hv hsmall (h.abs_le_two_pow.trans hlarge)

/-- Doubles that come from equal quotients have equal values, whatever was divided. -/
theorem exact_eq (hx : IsQuotient x a) (hy : IsQuotient y a) : exact x = exact y := by
  obtain ⟨u, v, p, q, hu, hv, hq, ha, rfl⟩ := hx.exists_div
  obtain ⟨u', v', p', q', hu', hv', hq', ha', rfl⟩ := hy.exists_div
  by_cases hzero : a = 0
  · have hp : p = 0 := by simpa [hzero, hq] using ha.symm
    have hp' : p' = 0 := by simpa [hzero, hq'] using ha'.symm
    subst hp hp'
    rw [exact_zero_div hu hv hq, exact_zero_div hu' hv' hq']
  · rw [div_congr hu hv hu' hv' (ha ▸ ha') (ha ▸ hx.two_pow_le_abs hzero)]

/-- Comparing doubles is comparing the quotients that they come from, if one of these is small. -/
theorem isBelow_iff (hx : IsQuotient x a) (hy : IsQuotient y b) (hsmall : |a| ≤ 1 ∨ |b| ≤ 1) :
    (exact x).isBelow (exact y) = true ↔ a < b := by
  obtain ⟨v, hv, hvnear⟩ := hx.exists_near
  obtain ⟨w, hw, hwnear⟩ := hy.exists_near
  rw [abs_le] at hvnear hwnear
  -- Different fractions with small denominators lie farther apart than rounding moves them.
  have happart : a ≠ b → 2 ^ (-52 : Int) * |a| + 2 ^ (-52 : Int) * |b| < |a - b| := by
    intro hne
    rw [← mul_add]
    rcases hsmall with ha | hb
    · exact lt_abs_sub_of_den_le hne hx.den_le hy.den_le ha
    · rw [add_comm, abs_sub_comm]
      exact lt_abs_sub_of_den_le hne.symm hy.den_le hx.den_le hb
  have hcompare : (exact x).isBelow (exact y) = true ↔ v < w := by
    rw [hv, hw]
    exact decide_eq_true_iff
  rw [hcompare]
  rcases lt_trichotomy a b with hlt | rfl | hgt
  · have h := happart hlt.ne
    rw [abs_of_neg (sub_neg.2 hlt)] at h
    exact iff_of_true (by linarith) hlt
  · have hvw := hx.exact_eq hy
    rw [hv, hw] at hvw
    rw [Extended.finite.inj hvw]
    simp
  · have h := happart hgt.ne'
    rw [abs_of_pos (sub_pos.2 hgt)] at h
    exact iff_of_false (by linarith) hgt.not_gt

/-- A quotient is no nan. -/
theorem exact_ne_undefined (h : IsQuotient x a) : exact x ≠ .undefined := by
  obtain ⟨v, hv, -⟩ := h.exists_near
  rw [hv]
  exact nofun

/-- The larger of two quotients is the quotient of the larger true value. -/
theorem larger (hx : IsQuotient x a) (hy : IsQuotient y b) (hsmall : |a| ≤ 1) :
    IsQuotient (larger x y) (max a b) := by
  unfold Number.larger
  simp only [hx.exact_ne_undefined, false_or, hx.isBelow_iff hy (.inl hsmall)]
  split_ifs with hlt
  · rwa [max_eq_right hlt.le]
  · rwa [max_eq_left (not_lt.1 hlt)]

/-- The smaller of two quotients is the quotient of the smaller true value. -/
theorem smaller (hx : IsQuotient x a) (hy : IsQuotient y b) (hsmall : |a| ≤ 1) :
    IsQuotient (smaller x y) (min a b) := by
  unfold Number.smaller
  simp only [hx.exact_ne_undefined, false_or, hy.isBelow_iff hx (.inr hsmall)]
  split_ifs with hlt
  · rwa [min_eq_right hlt.le]
  · rwa [min_eq_left (not_lt.1 hlt)]

end IsQuotient

end Reticle.Number
