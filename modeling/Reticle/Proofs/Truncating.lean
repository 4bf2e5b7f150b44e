import Reticle.Proofs.Rounding

/-!
# Truncated numbers

A number that is to be rounded is kept as a significand and two bits, one for the half of the last
place and one for whatever lies behind it. That is all of the number that rounding looks at: moving
the significand is truncating the smaller number (`shiftRight_truncation`), so it does not matter
where the number has been cut off first (`Truncates.roundWithAccuracy_congr`).
-/

namespace Reticle.Number

open Float.Model Float.Model.UnpackedFloat

/-! ### Two bits behind the units -/

/-- A number cut off at the units, with a bit for the half and one for whatever lies behind it. -/
def truncation (q : Rat) : ExtendedMantissa :=
  ⟨⌊q⌋₊, ⌊2 * q⌋₊ % 2 != 0, decide ((⌊2 * q⌋₊ : Rat) ≠ 2 * q)⟩

/-- A number is whole if twice the number is whole and even. -/
theorem floor_eq_self_iff (q : Rat) :
    (⌊q⌋₊ : Rat) = q ↔ ⌊2 * q⌋₊ % 2 = 0 ∧ (⌊2 * q⌋₊ : Rat) = 2 * q := by
  constructor
  · intro h
    have htwice : ⌊2 * q⌋₊ = 2 * ⌊q⌋₊ := by
      rw [← h, Nat.floor_natCast]
      exact_mod_cast Nat.floor_natCast (R := Rat) (2 * ⌊q⌋₊)
    rw [htwice, Nat.cast_mul, h]
    exact ⟨Nat.mul_mod_right 2 _, rfl⟩
  · rintro ⟨heven, h⟩
    obtain ⟨k, hk⟩ := Nat.dvd_of_mod_eq_zero heven
    rw [hk, Nat.cast_mul, Nat.cast_ofNat, mul_right_inj' two_ne_zero] at h
    rw [← h, Nat.floor_natCast]

/-- One shift to the right truncates the half. -/
theorem shiftRightOne_truncation (q : Rat) :
    (truncation q).shiftRightOne = truncation (q / 2) := by
  have hhalf : ⌊q / 2⌋₊ = ⌊q⌋₊ / 2 := Nat.floor_div_ofNat q 2
  have hsticky : (⌊2 * q⌋₊ % 2 != 0 || decide ((⌊2 * q⌋₊ : Rat) ≠ 2 * q)) =
      decide ((⌊q⌋₊ : Rat) ≠ q) := by
    rw [Bool.eq_iff_iff, Bool.or_eq_true, bne_iff_ne, decide_eq_true_iff, decide_eq_true_iff, Ne,
      Ne, Ne, floor_eq_self_iff q, not_and_or]
  unfold truncation ExtendedMantissa.shiftRightOne
  rw [mul_div_cancel₀ q two_ne_zero, hhalf, hsticky]

/-- A truncation that is moved is the truncation of the smaller number. -/
theorem shiftRight_truncation (q : Rat) (k : Nat) :
    truncation q >>> k = truncation (q / 2 ^ k) := by
  show Nat.repeat ExtendedMantissa.shiftRightOne k (truncation q) = _
  induction k with
  | zero => rw [pow_zero, div_one]; rfl
  | succ k ih =>
    show ExtendedMantissa.shiftRightOne (Nat.repeat _ k _) = _
    rw [ih, shiftRightOne_truncation, div_div, pow_succ]

/-! ### Numbers that are to be rounded -/

/-- A significand with an exponent, and how it was rounded, are what is kept of a number. -/
def Truncates (m : Nat) (e : Int) (accuracy : Accuracy) (q : Rat) : Prop :=
  ExtendedMantissa.ofMantissaAndAccuracy m accuracy = truncation (q / 2 ^ e)

/-- What whole division keeps of a quotient. -/
theorem ofMantissaAndAccuracy_div (a : Nat) {n : Nat} (hn : 0 < n) :
    ExtendedMantissa.ofMantissaAndAccuracy (a / n) (accuracyOfFraction (a % n) n) =
      truncation ((a : Rat) / n) := by
  have htwice : 2 * ((a : Rat) / n) = (2 * a : Nat) / n := by
    push_cast
    ring
  have hwhole : ((2 * a / n : Nat) : Rat) = (2 * a : Nat) / n ↔ 2 * (a % n) % n = 0 := by
    rw [eq_div_iff (by exact_mod_cast hn.ne'), Nat.mul_mod_mod, ← Nat.dvd_iff_mod_eq_zero,
      Nat.dvd_iff_div_mul_eq]
    norm_cast
  have hunits : 2 * a / n = 2 * (a / n) + 2 * (a % n) / n := by
    conv => lhs; rw [← Nat.div_add_mod a n]
    rw [mul_add, mul_left_comm, Nat.mul_add_div hn]
  have hrest : a % n < n := Nat.mod_lt a hn
  unfold truncation
  rw [htwice, Nat.floor_div_eq_div, Nat.floor_div_eq_div]
  simp only [Ne, hwhole]
  rw [hunits, Nat.mul_add_mod]
  generalize a % n = r at *
  unfold accuracyOfFraction
  by_cases hr : r = 0
  · simp [hr, ExtendedMantissa.ofMantissaAndAccuracy]
  · rw [if_neg hr]
    -- The accuracy compares the remainder with half the divisor; so does the first bit cut off.
    rcases lt_trichotomy (2 * r) n with hlt | heq | hgt
    · rw [compare_lt_iff_lt.2 hlt, Nat.div_eq_of_lt hlt, Nat.mod_eq_of_lt hlt]
      simp [ExtendedMantissa.ofMantissaAndAccuracy, hr]
    · rw [compare_eq_iff_eq.2 heq, heq, Nat.div_self hn, Nat.mod_self]
      simp [ExtendedMantissa.ofMantissaAndAccuracy]
    · have hquotient : 2 * r / n = 1 := Nat.div_eq_of_lt_le (by omega) (by omega)
      have hremainder : 2 * r % n ≠ 0 := by
        rw [Nat.mod_eq_sub_mod hgt.le, Nat.mod_eq_of_lt (by omega)]
        omega
      rw [compare_gt_iff_gt.2 hgt, hquotient]
      simp [ExtendedMantissa.ofMantissaAndAccuracy, hremainder]

namespace Truncates

variable {s : Sign} {m n : Nat} {e f : Int} {accuracy accuracy' : Accuracy} {q : Rat}

/-- The significand is the whole number of its places in the number. -/
theorem mantissa_eq (h : Truncates m e accuracy q) : m = ⌊q / 2 ^ e⌋₊ := by
  rw [← mantissa_ofMantissaAndAccuracy m accuracy, h]
  rfl

/-- What is kept of a number is no more than the number. -/
theorem le (h : Truncates m e accuracy q) (hq : 0 ≤ q) : m * 2 ^ e ≤ q := by
  rw [← le_div_iff₀ (by positivity), h.mantissa_eq]
  exact Nat.floor_le (by positivity)

/-- What is kept of a number is less than one unit of its last place below it. -/
theorem lt (h : Truncates m e accuracy q) : q < (m + 1) * 2 ^ e := by
  rw [← div_lt_iff₀ (by positivity), h.mantissa_eq]
  exact Nat.lt_floor_add_one _

/-- The number has as many places as its significand. -/
theorem lt_two_pow (h : Truncates m e accuracy q) (hpos : 0 < m) :
    q < 2 ^ ((m.log2 : Int) + 1 + e) := by
  have hlength : m + 1 ≤ 2 ^ (m.log2 + 1) := (log2_bounds hpos).2
  calc q < (m + 1) * 2 ^ e := h.lt
    _ ≤ 2 ^ (m.log2 + 1) * 2 ^ e :=
      mul_le_mul_of_nonneg_right (by exact_mod_cast hlength) (by positivity)
    _ = 2 ^ ((m.log2 : Int) + 1 + e) := by
      rw [zpow_add₀ (by norm_num)]
      norm_cast

/-- A number of at least a power of two keeps the digit of that power. -/
theorem lt_of_two_pow_le (h : Truncates m e accuracy q) (hpos : 0 < m) {N : Int}
    (hsmall : 2 ^ N ≤ q) : N < m.log2 + 1 + e :=
  (zpow_lt_zpow_iff_right₀ (by norm_num : (1 : Rat) < 2)).1 (hsmall.trans_lt (h.lt_two_pow hpos))

/-- Where the significand has its full length, only the number decides where the significand is
moved to, and what is left of it there. -/
theorem exists_place (h : Truncates m e accuracy q) (hfull : 52 ≤ m.log2)
    (hsmall : 2 ^ (-1000 : Int) ≤ q) :
    ∃ place : Int, (2 : Rat) ^ (52 + place) ≤ q ∧ q < 2 ^ (53 + place) ∧
      shiftToTargetExponent Format.binary64 m e accuracy = (truncation (q / 2 ^ place), place) := by
  have hpos : 0 < m := Nat.pos_of_ne_zero fun h0 => by simp [h0] at hfull
  have hplaces := h.lt_of_two_pow_le hpos hsmall
  refine ⟨e + (m.log2 - 52 : Nat), ?_, ?_, ?_⟩
  · rw [show (52 : Int) + (e + (m.log2 - 52 : Nat)) = m.log2 + e by omega]
    exact (magnitude_bounds hpos e).1.trans (h.le (le_trans (by positivity) hsmall))
  · rw [show (53 : Int) + (e + (m.log2 - 52 : Nat)) = m.log2 + 1 + e by omega]
    exact h.lt_two_pow hpos
  · rw [shiftToTargetExponent_eq accuracy hfull (by omega), h, shiftRight_truncation, div_div,
      zpow_add₀ (by norm_num), zpow_natCast]

/-- What a number is rounded to does not depend on where it has been cut off. -/
theorem roundWithAccuracy_congr (h : Truncates m e accuracy q) (h' : Truncates n f accuracy' q)
    (hfull : 52 ≤ m.log2) (hfull' : 52 ≤ n.log2) (hsmall : 2 ^ (-1000 : Int) ≤ q) :
    roundWithAccuracy Format.binary64 s m e accuracy =
      roundWithAccuracy Format.binary64 s n f accuracy' := by
  obtain ⟨place, hlow, hhigh, hshift⟩ := h.exists_place hfull hsmall
  obtain ⟨place', hlow', hhigh', hshift'⟩ := h'.exists_place hfull' hsmall
  have hle := (zpow_lt_zpow_iff_right₀ (by norm_num : (1 : Rat) < 2)).1 (hlow.trans_lt hhigh')
  have hge := (zpow_lt_zpow_iff_right₀ (by norm_num : (1 : Rat) < 2)).1 (hlow'.trans_lt hhigh)
  obtain rfl : place = place' := by omega
  unfold roundWithAccuracy
  rw [hshift, hshift']

end Truncates

end Reticle.Number
