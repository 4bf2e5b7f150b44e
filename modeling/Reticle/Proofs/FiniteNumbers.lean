import Reticle.Proofs.Dividing
import Reticle.Proofs.WholeNumbers

/-!
# Finite results

Rounding raises the exponent by one place at most, so a result whose leading place is low enough is
stored as a finite double (`exists_stored_roundWithAccuracy`). Quotients of doubles by numbers of at
least two are of this kind (`isFinite_div_iff`), and so are converted whole numbers of 64 bits
(`isFinite_ofInt`). An overflow is what remains, and division and negation do not undo it.
-/

namespace Reticle.Number

open Float.Model Float.Model.UnpackedFloat

/-! ### Storing -/

/-- Stored bits are a number unless their exponent is the largest one. -/
theorem exists_reading_unpack {b : BitVec Format.binary64.numBits} (h : unpackExponent b ≠ -1#_) :
    ∃ q, reading (UnpackedFloat.unpack Format.binary64 b) = .finite q := by
  unfold UnpackedFloat.unpack
  dsimp only
  rw [if_neg h]
  split
  · split
    · exact ⟨0, rfl⟩
    · exact ⟨_, rfl⟩
  · exact ⟨_, rfl⟩

/-- Up to the largest exponent a significand is stored with a value. -/
theorem exists_stored_finite (s : Sign) {m : Nat} {e : Int} (hp : 0 < m) (he : e ≤ 971) :
    ∃ q, stored (.finite s m e hp) = .finite q := by
  have hbias : e + (Format.binary64.exponentBias : Int) +
      Format.binary64.mantissaBitsWithoutImplicit = e + 1075 := by
    show e + 1023 + 52 = e + 1075
    omega
  have hfits : ¬ 2 ^ Format.binary64.exponentBits ≤ (e + 1075).toNat + 1 := by
    show ¬ 2048 ≤ (e + 1075).toNat + 1
    omega
  rw [stored_eq_reading]
  apply exists_reading_unpack
  show unpackExponent (UnpackedFloat.pack Format.binary64 _) ≠ _
  unfold UnpackedFloat.pack
  simp only [hbias]
  rw [if_neg hfits]
  split
  · rw [unpackExponent_packComponents, Ne, ← BitVec.toNat_inj, BitVec.toNat_ofNat]
    show (e + 1075).toNat % 2048 ≠ 2047
    omega
  · rw [unpackExponent_packComponents]
    decide

/-! ### Rounding -/

/-- The exponent after shifting is the given one, or the lowest one that leaves the length of a
significand. -/
theorem snd_shiftToTargetExponent (m : Nat) (e : Int) (accuracy : Accuracy) :
    (shiftToTargetExponent Format.binary64 m e accuracy).2 =
      max e (max ((m.log2 : Int) + e - 52) (-1074)) := by
  show e + ((max ((m.log2 : Int) + 1 + e - 53) (-1074) - e).toNat : Int) = _
  omega

/-- Shifting leaves at most the length of a significand. -/
theorem mantissa_shiftToTargetExponent_lt (m : Nat) (e : Int) (accuracy : Accuracy) :
    (shiftToTargetExponent Format.binary64 m e accuracy).1.mantissa < 2 ^ 53 := by
  show (ExtendedMantissa.ofMantissaAndAccuracy m accuracy >>>
    (max ((m.log2 : Int) + 1 + e - 53) (-1074) - e).toNat).mantissa < 2 ^ 53
  rw [mantissa_shiftRight, mantissa_ofMantissaAndAccuracy]
  generalize hk : (max ((m.log2 : Int) + 1 + e - 53) (-1074) - e).toNat = k
  rw [Nat.div_lt_iff_lt_mul (by positivity), ← Nat.pow_add]
  by_cases hm : m = 0
  · rw [hm]
    positivity
  · have hlog : m < 2 ^ (m.log2 + 1) := (log2_bounds (Nat.pos_of_ne_zero hm)).2
    exact hlog.trans_le (Nat.pow_le_pow_right (by norm_num) (by omega))

/-- Rounding gives a finite double if neither the leading place of the magnitude nor its exponent is
too high. -/
theorem exists_stored_roundWithAccuracy (s : Sign) {m : Nat} {e : Int} (accuracy : Accuracy)
    (he : e ≤ 970) (hsize : (m.log2 : Int) + e ≤ 1022) :
    ∃ q, stored (roundWithAccuracy Format.binary64 s m e accuracy) = .finite q := by
  have hfirst := snd_shiftToTargetExponent m e accuracy
  have hlength := mantissa_shiftToTargetExponent_lt m e accuracy
  unfold roundWithAccuracy
  generalize shiftToTargetExponent Format.binary64 m e accuracy = shifted at hfirst hlength
  obtain ⟨em, e₁⟩ := shifted
  dsimp only at hfirst hlength ⊢
  have hrounded : em.roundedMantissa ≤ 2 ^ 53 :=
    (mantissa_le_roundedMantissa em).2.trans hlength
  have hcarry : em.roundedMantissa.log2 ≤ 53 := by
    by_cases hzero : em.roundedMantissa = 0
    · rw [hzero, Nat.log2_zero]
      omega
    · exact Nat.lt_succ_iff.1 ((Nat.log2_lt hzero).2 (by omega))
  have hsecond := snd_shiftToTargetExponent em.roundedMantissa e₁ .exact
  split
  · exact ⟨0, stored_zero s⟩
  · apply exists_stored_finite
    rw [hsecond, hfirst]
    omega

/-! ### Quotients -/

/-- A quotient has no more binary digits than the dividend, as it was shifted, has beyond the
divisor. -/
theorem log2_quotient_le {m n k : Nat} (hm : 0 < m) (hn : 0 < n) (hq : (m <<< k) / n ≠ 0) :
    ((m <<< k) / n).log2 + n.log2 ≤ m.log2 + k := by
  have hlow := (log2_bounds (Nat.pos_of_ne_zero hq)).1
  have hshifted : m <<< k ≠ 0 := by
    rintro hzero
    rw [hzero, Nat.zero_div] at hq
    exact hq rfl
  rw [← log2_shiftLeft hm, Nat.le_log2 hshifted, Nat.pow_add]
  exact (Nat.mul_le_mul hlow (log2_bounds hn).1).trans (Nat.div_mul_le_self _ _)

/-- Dividing a finite double by two or more does not overflow. -/
theorem isFinite_div {x y : Float} {q : Rat} (hx : x.isFinite = true) (hy : exact y = .finite q)
    (hq : 2 ≤ |q|) : (x / y).isFinite = true := by
  obtain ⟨p, hx⟩ := isFinite_iff.1 hx
  have hq0 : q ≠ 0 := abs_pos.1 (lt_of_lt_of_le (by norm_num) hq)
  rw [isFinite_iff]
  rcases exists_of_exact_eq_finite hx with ⟨-, -, rfl⟩ | ⟨s, m, e, hm, hunpack, hdouble, -⟩
  · exact ⟨0, exact_zero_div hx hy hq0⟩
  rcases exists_of_exact_eq_finite hy with ⟨-, -, hzero⟩ | ⟨t, n, f, hn, hunpack', -, rfl⟩
  · exact absurd hzero hq0
  have hdivisor : 1 ≤ (n.log2 : Int) + f := by
    have hbelow : (2 : Rat) ^ (1 : Int) < 2 ^ ((n.log2 : Int) + 1 + f) := by
      rw [abs_signed] at hq
      rw [zpow_one]
      exact hq.trans_lt (magnitude_bounds hn f).2
    have := (zpow_lt_zpow_iff_right₀ (by norm_num : (1 : Rat) < 2)).1 hbelow
    omega
  have hdividend : (m.log2 : Int) + e ≤ 1023 := by
    have hlog : m.log2 < 53 := (Nat.log2_lt hm.ne').2 hdouble.lt
    have := hdouble.exponent_le
    omega
  obtain ⟨k, place, hcore, hplace, hk⟩ := divCore_shifted m n e f
  -- Dividing by two or more loses at least one binary digit, which leaves room for rounding up.
  have hsize : (((m <<< k) / n).log2 : Int) + place ≤ 1022 := by
    by_cases hzero : (m <<< k) / n = 0
    · rw [hzero, Nat.log2_zero]
      omega
    · have := log2_quotient_le hm hn hzero
      omega
  show ∃ r, stored (UnpackedFloat.div Format.binary64 x.toModel.unpack y.toModel.unpack) = .finite r
  rw [hunpack, hunpack']
  unfold UnpackedFloat.div
  simp only [hcore]
  exact exists_stored_roundWithAccuracy (s / t) _ (by omega) hsize

/-- What is no number stays so when it is stored. -/
theorem isFinite_ofModel_pack {u : UnpackedFloat} (hu : u.isFinite = false) :
    (Float.ofModel (Float.Model.pack u)).isFinite = false := by
  cases u with
  | notANumber => rfl
  | infinity s => cases s <;> rfl
  | zero s => cases hu
  | finite s m e hp => cases hu

/-- Nor does it make an infinite double finite. -/
theorem isFinite_div_iff {x y : Float} {q : Rat} (hy : exact y = .finite q) (hq : 2 ≤ |q|) :
    (x / y).isFinite = true ↔ x.isFinite = true := by
  refine ⟨fun hquotient => ?_, fun hx => isFinite_div hx hy hq⟩
  by_contra hx
  have hinfinite : x.toModel.unpack.isFinite = false := eq_false_of_ne_true hx
  have hdiv : (UnpackedFloat.div Format.binary64 x.toModel.unpack y.toModel.unpack).isFinite =
      false := by
    rcases exists_of_exact_eq_finite hy with ⟨t, hunpack, -⟩ | ⟨t, m, e, hp, hunpack, -, -⟩ <;>
      (rw [hunpack]; cases hcase : x.toModel.unpack <;> rw [hcase] at hinfinite <;>
        first | rfl | cases hinfinite)
  exact ne_true_of_eq_false (isFinite_ofModel_pack hdiv) hquotient

/-- A double is finite exactly when its negative is. -/
theorem isFinite_neg (x : Float) : (-x).isFinite = x.isFinite := by
  by_cases hx : x.isFinite = true
  · obtain ⟨q, hq⟩ := isFinite_iff.1 hx
    rw [hx]
    exact isFinite_iff.2 ⟨-q, exact_neg hq⟩
  · have hinfinite : x.toModel.unpack.isFinite = false := eq_false_of_ne_true hx
    have hneg : x.toModel.unpack.neg.isFinite = false := by
      cases hcase : x.toModel.unpack <;> rw [hcase] at hinfinite <;> first | rfl | cases hinfinite
    rw [eq_false_of_ne_true hx]
    exact isFinite_ofModel_pack hneg

/-! ### Whole numbers -/

/-- Whole numbers of more than 53 binary digits are rounded, and are finite if they are not too
long. -/
theorem isFinite_ofNat {n : Nat} (hn : n < 2 ^ 64) : (Float.ofNat n).isFinite = true := by
  by_cases hshort : n < 2 ^ 53
  · exact isFinite_iff.2 ⟨_, exact_ofNat hshort⟩
  have hpos : 0 < n := by omega
  have hlength : n.log2 < 64 := (Nat.log2_lt hpos.ne').2 hn
  have hrounded : UnpackedFloat.ofScientific Format.binary64 n 0 =
      roundWithAccuracy Format.binary64 .positive (n <<< 53 * 10 ^ 0) (-53 + 0) .exact := by
    have hfits : ¬ (0 : Int) > 2 ^ Format.binary64.exponentBits := by decide
    have hlow : ¬ (0 : Int) < -(2 ^ Format.binary64.exponentBits + n.log2) := by
      show ¬ (0 : Int) < -(2048 + n.log2)
      omega
    unfold UnpackedFloat.ofScientific
    rw [dif_neg hpos.ne', if_neg hfits, if_neg hlow, if_pos le_rfl]
    rfl
  have hconverted : Float.ofNat n =
      .ofModel (Float.Model.pack (UnpackedFloat.ofScientific Format.binary64 n 0)) := by
    show Float.ofScientific n false 0 = _
    unfold Float.ofScientific
    rw [dif_neg (by omega)]
    rfl
  rw [isFinite_iff, hconverted, hrounded]
  refine exists_stored_roundWithAccuracy .positive .exact (by norm_num) ?_
  rw [pow_zero, mul_one, log2_shiftLeft hpos]
  omega

/-- Whole numbers of up to 64 binary digits become finite doubles. -/
theorem isFinite_ofInt {n : Int} (hn : |n| < 2 ^ 64) : (Float.ofInt n).isFinite = true := by
  cases n with
  | ofNat n => exact isFinite_ofNat (by simpa using hn)
  | negSucc n =>
    show (-Float.ofNat (n + 1)).isFinite = true
    rw [isFinite_neg]
    exact isFinite_ofNat (by rw [abs_negSucc] at hn; exact_mod_cast hn)

end Reticle.Number
