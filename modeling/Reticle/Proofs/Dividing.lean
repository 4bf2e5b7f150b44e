import Reticle.Proofs.Truncating

/-!
# Quotients of doubles

A quotient of significands is computed until it is at least as long as a significand, and the
remainder says how its last place is to be rounded: it is a truncation of the true quotient
(`exists_truncates_div`). So what comes out depends on the true quotient only (`div_congr`), and is
one of the two multiples of the last place next to it, off by at most the last place
(`exists_near_div`). The bound is not the best possible; it is enough to compare quotients that are
not too close.
-/

namespace Reticle.Number

open Float.Model Float.Model.UnpackedFloat

/-- The size of a quotient by the lengths of its significands. -/
theorem quotient_lt {m n : Nat} (hm : 0 < m) (hn : 0 < n) (e f : Int) :
    (m * 2 ^ e : Rat) / (n * 2 ^ f) < 2 ^ ((m.log2 : Int) - n.log2 + e - f + 1) := by
  have hlow := (magnitude_bounds hn f).1
  have hhigh := (magnitude_bounds hm e).2
  have hpos : (0 : Rat) < 2 ^ ((n.log2 : Int) + f) := by positivity
  rw [div_lt_iff₀ (hpos.trans_le hlow)]
  calc (m * 2 ^ e : Rat) < 2 ^ ((m.log2 : Int) + 1 + e) := hhigh
    _ = 2 ^ ((m.log2 : Int) - n.log2 + e - f + 1) * 2 ^ ((n.log2 : Int) + f) := by
      rw [← zpow_add₀ (by norm_num)]
      congr 1
      ring
    _ ≤ 2 ^ ((m.log2 : Int) - n.log2 + e - f + 1) * (n * 2 ^ f) :=
      mul_le_mul_of_nonneg_left hlow (by positivity)

/-- A quotient of significands, with the dividend shifted as far as its last place asks. -/
theorem divCore_shifted (m n : Nat) (e f : Int) :
    ∃ (k : Nat) (place : Int), divCore Format.binary64 m e n f =
        ((m <<< k) / n, place, accuracyOfFraction ((m <<< k) % n) n) ∧
      place = min (e - f) (max ((m.log2 : Int) - n.log2 + e - f - 53) (-1074)) ∧
      place + k = e - f := by
  have htarget : Format.binary64.targetExponent (totalExponent m e - totalExponent n f) =
      max ((m.log2 : Int) - n.log2 + e - f - 53) (-1074) := by
    show max ((m.log2 : Int) + 1 + e - (n.log2 + 1 + f) - 53) (-1074) = _
    congr 1
    ring
  refine ⟨_, _, rfl, by rw [htarget], ?_⟩
  omega

/-- The quotient of significands has its full length, and is a truncation of the true quotient. -/
theorem divCore_eq {m n : Nat} {e f : Int} (hm : 0 < m) (hn : 0 < n)
    (hnormal : -1000 ≤ (m.log2 : Int) - n.log2 + e - f) :
    ∃ q place accuracy, divCore Format.binary64 m e n f = (q, place, accuracy) ∧
      52 ≤ q.log2 ∧ Truncates q place accuracy ((m * 2 ^ e) / (n * 2 ^ f)) := by
  obtain ⟨k, place, hcore, hplace, hk⟩ := divCore_shifted m n e f
  refine ⟨_, _, _, hcore, ?_, ?_⟩
  · -- Shifted so far, the dividend is 53 places longer than the divisor.
    have hlength : n.log2 + 53 ≤ (m <<< k).log2 := by
      rw [log2_shiftLeft hm]
      omega
    have hdividend : 2 ^ (n.log2 + 53) ≤ m <<< k := by
      refine (Nat.pow_le_pow_right (by norm_num) hlength).trans (log2_bounds ?_).1
      rw [Nat.shiftLeft_eq]
      positivity
    have hquotient : 2 ^ 52 ≤ (m <<< k) / n := by
      rw [Nat.le_div_iff_mul_le hn]
      calc 2 ^ 52 * n ≤ 2 ^ 52 * 2 ^ (n.log2 + 1) :=
          Nat.mul_le_mul_left _ (log2_bounds hn).2.le
        _ = 2 ^ (n.log2 + 53) := by
          rw [← Nat.pow_add]
          congr 1
          omega
        _ ≤ m <<< k := hdividend
    exact (Nat.le_log2 (by omega)).2 hquotient
  · have hn' : (n : Rat) ≠ 0 := by exact_mod_cast hn.ne'
    have hexponents : (2 : Rat) ^ e = 2 ^ (k : Int) * 2 ^ place * 2 ^ f := by
      rw [← zpow_add₀ (by norm_num), ← zpow_add₀ (by norm_num)]
      congr 1
      omega
    have hvalue : (m * 2 ^ e : Rat) / (n * 2 ^ f) / 2 ^ place = ((m <<< k : Nat) : Rat) / n := by
      rw [hexponents, Nat.shiftLeft_eq, zpow_natCast]
      push_cast
      field_simp
    unfold Truncates
    rw [hvalue]
    exact ofMantissaAndAccuracy_div _ hn

/-- Two numbers between the same two multiples of a last place differ by at most that place, which
is small against them. -/
theorem abs_sub_le_of_between {c r : Nat} {unit q : Rat} (hfull : 2 ^ 52 ≤ c) (hunit : 0 < unit)
    (hbelow : c * unit ≤ q) (habove : q ≤ (c + 1) * unit) (hcut : c ≤ r) (hnext : r ≤ c + 1) :
    |r * unit - q| ≤ 2 ^ (-52 : Int) * q := by
  have hcut' : (c : Rat) * unit ≤ r * unit :=
    mul_le_mul_of_nonneg_right (by exact_mod_cast hcut) hunit.le
  have hnext' : (r : Rat) * unit ≤ (c + 1) * unit :=
    mul_le_mul_of_nonneg_right (by exact_mod_cast hnext) hunit.le
  have hplace : unit ≤ 2 ^ (-52 : Int) * q := by
    have hlong : (2 : Rat) ^ 52 * unit ≤ c * unit :=
      mul_le_mul_of_nonneg_right (by exact_mod_cast hfull) hunit.le
    rw [show (-52 : Int) = -((52 : Nat) : Int) from rfl, zpow_neg, zpow_natCast, ← div_eq_inv_mul,
      le_div_iff₀ (by positivity), mul_comm]
    exact hlong.trans hbelow
  rw [abs_le]
  constructor <;> linarith

/-- Rounding a magnitude of which a part of the last place was cut off. -/
theorem exists_near_roundWithAccuracy (s : Sign) {m : Nat} {e : Int} {accuracy : Accuracy} {q : Rat}
    (h : Truncates m e accuracy q) (hfull : 52 ≤ m.log2) (hsmall : 2 ^ (-1000 : Int) ≤ q)
    (hlarge : q ≤ 2 ^ (1000 : Int)) :
    ∃ r : Rat, stored (roundWithAccuracy Format.binary64 s m e accuracy) =
        .finite (s.apply 1 * r) ∧ |r - q| ≤ 2 ^ (-52 : Int) * q := by
  have hpos : 0 < m := Nat.pos_of_ne_zero fun h => by simp [h] at hfull
  have hplaces := h.lt_of_two_pow_le hpos hsmall
  have hlow := h.le (le_trans (by positivity) hsmall)
  have hhigh := h.lt.le
  have hnormal : -1022 ≤ (m.log2 : Int) + e := by omega
  obtain ⟨m', e', hp, heq, hm, hm', he, ⟨r, hcut, hnext, hvalue⟩, -⟩ :=
    roundWithAccuracy_eq s accuracy hfull hnormal
  have hlast := (div_two_pow_log2 hfull).1
  generalize m.log2 - 52 = k at *
  have hscale : (2 : Rat) ^ (e + (k : Nat)) = 2 ^ k * 2 ^ e := by
    rw [add_comm, zpow_add₀ (by norm_num), zpow_natCast]
  -- The rounded significand lies within one unit of the last place that is kept, on either side.
  have hnear : |r * 2 ^ (e + (k : Nat)) - q| ≤ 2 ^ (-52 : Int) * q := by
    refine abs_sub_le_of_between hlast (by positivity) ?_ ?_ hcut hnext
    · refine le_trans ?_ hlow
      rw [hscale, ← mul_assoc]
      refine mul_le_mul_of_nonneg_right ?_ (by positivity)
      exact_mod_cast Nat.div_mul_le_self m (2 ^ k)
    · refine hhigh.trans ?_
      rw [hscale, ← mul_assoc, mul_comm _ ((2 : Rat) ^ k)]
      refine mul_le_mul_of_nonneg_right ?_ (by positivity)
      exact_mod_cast Nat.lt_mul_div_succ m (Nat.two_pow_pos k)
  refine ⟨_, ?_, hnear⟩
  -- What is as near to a moderate number as that does not overflow.
  have hfits : e' ≤ 971 := by
    have hquarter : (2 : Rat) ^ (-52 : Int) * q ≤ q := by
      refine mul_le_of_le_one_left (le_trans (by positivity) hsmall) ?_
      exact zpow_le_one_of_nonpos₀ (by norm_num) (by norm_num)
    have hdouble : (2 : Rat) ^ (1001 : Int) = 2 ^ (1000 : Int) * 2 :=
      zpow_add_one₀ (by norm_num) 1000
    have hbound : (m' : Rat) * 2 ^ e' ≤ 2 ^ (1001 : Int) := by
      rw [hvalue, hdouble]
      linarith [(abs_le.1 hnear).2]
    have hmagnitude := (magnitude_bounds hp e').1
    rw [(Nat.log2_eq_iff hp.ne').2 ⟨hm, hm'⟩] at hmagnitude
    have := (zpow_le_zpow_iff_right₀ (by norm_num : (1 : Rat) < 2)).1 (hmagnitude.trans hbound)
    omega
  rw [heq, stored_finite hp hm hm' he, if_pos hfits, signed_eq, hvalue]

/-- A quotient of significands with exponents is the quotient of the magnitudes, with the sign of
both. -/
theorem signed_div_signed (s t : Sign) (m n : Nat) (e f : Int) :
    signed s m e / signed t n f = (s / t).apply 1 * ((m * 2 ^ e) / (n * 2 ^ f)) := by
  have hsign : (s / t).apply 1 = s.apply 1 * t.apply 1 := by
    cases s <;> cases t <;> rfl
  have hunit : ((t.apply 1 : Int) : Rat)⁻¹ = (t.apply 1 : Int) := by
    cases t <;> norm_num [Sign.apply]
  rw [signed_eq, signed_eq, hsign, div_eq_mul_inv, mul_inv, hunit, Int.cast_mul]
  ring

/-- The quotient of two doubles, unless it is extremely small, is rounded from a truncation of the
true quotient. -/
theorem exists_truncates_div {x y : Float} {p q : Rat} (hx : exact x = .finite p)
    (hy : exact y = .finite q) (hsmall : 2 ^ (-1000 : Int) ≤ |p / q|) :
    ∃ (s : Sign) (m : Nat) (e : Int) (accuracy : Accuracy),
      UnpackedFloat.div Format.binary64 x.toModel.unpack y.toModel.unpack =
        roundWithAccuracy Format.binary64 s m e accuracy ∧
      52 ≤ m.log2 ∧ Truncates m e accuracy |p / q| ∧ p / q = s.apply 1 * |p / q| := by
  have hne : p / q ≠ 0 := abs_pos.1 (lt_of_lt_of_le (by positivity) hsmall)
  obtain ⟨hp0, hq0⟩ := div_ne_zero_iff.1 hne
  rcases exists_of_exact_eq_finite hx with ⟨-, -, hzero⟩ | ⟨s, m, e, hm, hunpack, -, rfl⟩
  · exact absurd hzero hp0
  rcases exists_of_exact_eq_finite hy with ⟨-, -, hzero⟩ | ⟨t, n, f, hn, hunpack', -, rfl⟩
  · exact absurd hzero hq0
  have habs : |signed s m e / signed t n f| = (m * 2 ^ e) / (n * 2 ^ f) := by
    rw [abs_div, abs_signed, abs_signed]
  rw [habs] at hsmall ⊢
  have hnormal : -1000 ≤ (m.log2 : Int) - n.log2 + e - f := by
    have hlt := hsmall.trans_lt (quotient_lt hm hn e f)
    have := (zpow_lt_zpow_iff_right₀ (by norm_num : (1 : Rat) < 2)).1 hlt
    omega
  obtain ⟨c, place, accuracy, hcore, hfull, htruncates⟩ := divCore_eq hm hn hnormal
  refine ⟨s / t, c, place, accuracy, ?_, hfull, htruncates, signed_div_signed s t m n e f⟩
  rw [hunpack, hunpack']
  unfold UnpackedFloat.div
  simp only [hcore]

/-- Quotients of doubles are the same double if the true quotients are the same. -/
theorem div_congr {x y x' y' : Float} {p q p' q' : Rat} (hx : exact x = .finite p)
    (hy : exact y = .finite q) (hx' : exact x' = .finite p') (hy' : exact y' = .finite q')
    (heq : p / q = p' / q') (hsmall : 2 ^ (-1000 : Int) ≤ |p / q|) : x / y = x' / y' := by
  obtain ⟨s, m, e, accuracy, hdiv, hfull, htruncates, hsign⟩ := exists_truncates_div hx hy hsmall
  obtain ⟨s', m', e', accuracy', hdiv', hfull', htruncates', hsign'⟩ :=
    exists_truncates_div hx' hy' (heq ▸ hsmall)
  rw [← heq] at htruncates' hsign'
  have hpos : 0 < |p / q| := lt_of_lt_of_le (by positivity) hsmall
  obtain rfl : s = s' := by
    have hunits := mul_right_cancel₀ hpos.ne' (hsign.symm.trans hsign')
    cases s <;> cases s' <;> first | rfl | norm_num [Sign.apply] at hunits
  show Float.ofModel (Float.Model.pack _) = Float.ofModel (Float.Model.pack _)
  rw [hdiv, hdiv', htruncates.roundWithAccuracy_congr htruncates' hfull hfull' hsmall]

/-- The quotient of two doubles, unless it is extremely small or large, is a double next to the true
quotient. -/
theorem exists_near_div {x y : Float} {p q : Rat} (hx : exact x = .finite p)
    (hy : exact y = .finite q) (hsmall : 2 ^ (-1000 : Int) ≤ |p / q|)
    (hlarge : |p / q| ≤ 2 ^ (1000 : Int)) :
    ∃ r, exact (x / y) = .finite r ∧ |r - p / q| ≤ 2 ^ (-52 : Int) * |p / q| := by
  obtain ⟨s, m, e, accuracy, hdiv, hfull, htruncates, hsign⟩ := exists_truncates_div hx hy hsmall
  obtain ⟨r, hr, hnear⟩ := exists_near_roundWithAccuracy s htruncates hfull hsmall hlarge
  refine ⟨s.apply 1 * r, ?_, ?_⟩
  · show stored (UnpackedFloat.div Format.binary64 x.toModel.unpack y.toModel.unpack) = _
    rw [hdiv, hr]
  · have hdifference : s.apply 1 * r - p / q = s.apply 1 * (r - |p / q|) := by
      conv => lhs; rw [hsign]
      rw [mul_sub]
    rw [hdifference, abs_mul, abs_apply_one, one_mul]
    exact hnear

/-- Zero divided by what is not zero is zero. -/
theorem exact_zero_div {x y : Float} {q : Rat} (hx : exact x = .finite 0) (hy : exact y = .finite q)
    (hq : q ≠ 0) : exact (x / y) = .finite 0 := by
  rcases exists_of_exact_eq_finite hx with ⟨s, hunpack, -⟩ | ⟨s, m, e, hm, -, -, hvalue⟩
  · rcases exists_of_exact_eq_finite hy with ⟨-, -, hzero⟩ | ⟨t, n, f, hn, hunpack', -, -⟩
    · exact absurd hzero hq
    · show stored (UnpackedFloat.div Format.binary64 x.toModel.unpack y.toModel.unpack) = _
      rw [hunpack, hunpack']
      exact stored_zero _
  · exact absurd hvalue.symm (signed_ne_zero s hm e)

end Reticle.Number
