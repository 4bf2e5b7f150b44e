import Mathlib.Tactic.Ring
import Reticle.Proofs.Doubles

/-!
# Rounding

Sums and products of doubles are computed exactly and then rounded. Of rounding, two consequences
are used (`Rounds`): a result that is a double comes out as it is, and a result that is at least a
power of two in size stays so, be it as an infinity. They are proved for the two ways in which the
arithmetic rounds (`rounds_roundWithAccuracy`, `rounds_normalize`), and from them for sums and
products. A negation is not rounded at all.
-/

namespace Reticle.Number

open Float.Model Float.Model.UnpackedFloat

/-! ### Shifting a significand -/

/-- A shift to the right divides the mantissa and drops the remainder. -/
theorem mantissa_shiftRight (em : ExtendedMantissa) (k : Nat) :
    (em >>> k).mantissa = em.mantissa / 2 ^ k := by
  show (Nat.repeat ExtendedMantissa.shiftRightOne k em).mantissa = _
  induction k with
  | zero => exact (Nat.div_one _).symm
  | succ k ih =>
    show (Nat.repeat ExtendedMantissa.shiftRightOne k em).mantissa / 2 = _
    rw [ih, Nat.div_div_eq_div_mul, Nat.pow_succ]

/-- A shift that drops only zeros loses no accuracy. -/
theorem shiftRight_of_dvd {m k : Nat} (hdvd : 2 ^ k ∣ m) :
    (⟨m, false, false⟩ : ExtendedMantissa) >>> k = ⟨m / 2 ^ k, false, false⟩ := by
  show Nat.repeat ExtendedMantissa.shiftRightOne k ⟨m, false, false⟩ = _
  induction k with
  | zero => rw [Nat.pow_zero, Nat.div_one]; rfl
  | succ k ih =>
    obtain ⟨n, rfl⟩ := hdvd
    have heven : 2 ^ (k + 1) * n = 2 ^ k * (2 * n) := by ring
    show ExtendedMantissa.shiftRightOne (Nat.repeat _ k _) = _
    rw [ih ⟨2 * n, heven⟩, Nat.mul_div_cancel_left _ (by positivity), heven,
      Nat.mul_div_cancel_left _ (by positivity)]
    simp [ExtendedMantissa.shiftRightOne]

/-- Rounding adds one at most. -/
theorem mantissa_le_roundedMantissa (em : ExtendedMantissa) :
    em.mantissa ≤ em.roundedMantissa ∧ em.roundedMantissa ≤ em.mantissa + 1 := by
  obtain ⟨m, r, s⟩ := em
  cases r <;> cases s <;>
    simp only [ExtendedMantissa.roundedMantissa, ExtendedMantissa.accuracy,
      Accuracy.roundToNearestEven] <;> omega

/-- Attaching an accuracy keeps the mantissa. -/
theorem mantissa_ofMantissaAndAccuracy (m : Nat) (accuracy : Accuracy) :
    (ExtendedMantissa.ofMantissaAndAccuracy m accuracy).mantissa = m := by
  rcases accuracy with _ | _ | _ | _ <;> rfl

/-- Where the significand has its full length, shifting to the exponent of a double removes what
goes beyond that length. -/
theorem shiftToTargetExponent_eq {m : Nat} {e : Int} (accuracy : Accuracy) (hfull : 52 ≤ m.log2)
    (hnormal : -1022 ≤ m.log2 + e) :
    shiftToTargetExponent Format.binary64 m e accuracy =
      (ExtendedMantissa.ofMantissaAndAccuracy m accuracy >>> (m.log2 - 52),
        e + (m.log2 - 52 : Nat)) := by
  have htarget : (Format.binary64.targetExponent (totalExponent m e) - e).toNat = m.log2 - 52 := by
    show (max ((m.log2 : Int) + 1 + e - 53) (-1074) - e).toNat = m.log2 - 52
    omega
  unfold shiftToTargetExponent shiftToExponent
  dsimp only
  rw [htarget]

/-- A number lies between two powers of two next to each other. -/
theorem log2_bounds {m : Nat} (hpos : 0 < m) : 2 ^ m.log2 ≤ m ∧ m < 2 ^ (m.log2 + 1) :=
  (Nat.log2_eq_iff hpos.ne').1 rfl

/-- Cut down to 53 binary digits, a number has a full significand. -/
theorem div_two_pow_log2 {m : Nat} (hfull : 52 ≤ m.log2) :
    2 ^ 52 ≤ m / 2 ^ (m.log2 - 52) ∧ m / 2 ^ (m.log2 - 52) < 2 ^ 53 := by
  have hpos : 0 < m := by
    by_contra h
    obtain rfl : m = 0 := by omega
    rw [Nat.log2_zero] at hfull
    omega
  obtain ⟨hle, hlt⟩ := log2_bounds hpos
  constructor
  · rw [Nat.le_div_iff_mul_le (by positivity), ← Nat.pow_add]
    rwa [show 52 + (m.log2 - 52) = m.log2 by omega]
  · rw [Nat.div_lt_iff_lt_mul (by positivity), ← Nat.pow_add]
    rwa [show 53 + (m.log2 - 52) = m.log2 + 1 by omega]

/-- Rounding may carry into one place more, and then leaves nothing but zeros. -/
theorem dvd_of_carry {r : Nat} (hlow : 2 ^ 52 ≤ r) (hhigh : r ≤ 2 ^ 53) :
    52 ≤ r.log2 ∧ 2 ^ (r.log2 - 52) ∣ r := by
  have hpos : r ≠ 0 := by omega
  by_cases hcarry : r < 2 ^ 53
  · have hlog : r.log2 = 52 := (Nat.log2_eq_iff hpos).2 ⟨hlow, hcarry⟩
    rw [hlog]
    exact ⟨le_rfl, one_dvd r⟩
  · have heq : r = 2 ^ 53 := by omega
    have hlog : r.log2 = 53 := (Nat.log2_eq_iff hpos).2 ⟨by omega, by omega⟩
    rw [hlog, heq]
    exact ⟨by norm_num, ⟨2 ^ 52, by norm_num⟩⟩

/-- Zeros may be moved from the significand to the exponent. -/
theorem div_mul_two_pow {m k : Nat} (hdvd : 2 ^ k ∣ m) (e : Int) :
    ((m / 2 ^ k : Nat) : Rat) * 2 ^ (e + (k : Nat)) = m * 2 ^ e := by
  obtain ⟨n, rfl⟩ := hdvd
  rw [Nat.mul_div_cancel_left _ (by positivity), zpow_add₀ (by norm_num), zpow_natCast]
  push_cast
  ring

/-- Rounding a magnitude that is no smaller than a normal double, of which the significand is all or
all but a fraction of the last place: the result has a full significand and stands for one of the two
whole multiples of its last place next to the magnitude, which is the magnitude itself if nothing is
lost. -/
theorem roundWithAccuracy_eq (s : Sign) {m : Nat} {e : Int} (accuracy : Accuracy)
    (hfull : 52 ≤ m.log2) (hnormal : -1022 ≤ m.log2 + e) :
    ∃ m' e' hp, roundWithAccuracy Format.binary64 s m e accuracy = .finite s m' e' hp ∧
      2 ^ 52 ≤ m' ∧ m' < 2 ^ 53 ∧ -1074 ≤ e' ∧
      (∃ r : Nat, m / 2 ^ (m.log2 - 52) ≤ r ∧ r ≤ m / 2 ^ (m.log2 - 52) + 1 ∧
        (m' : Rat) * 2 ^ e' = r * 2 ^ (e + (m.log2 - 52 : Nat))) ∧
      (accuracy = .exact → 2 ^ (m.log2 - 52) ∣ m → (m' : Rat) * 2 ^ e' = m * 2 ^ e) := by
  -- The first shift cuts the significand to its full length. Rounding it may carry into one place
  -- more, which the second shift takes away again.
  obtain ⟨hlow, hhigh⟩ := div_two_pow_log2 hfull
  have hfirst := shiftToTargetExponent_eq accuracy hfull hnormal
  have hexact := @shiftRight_of_dvd m (m.log2 - 52)
  have hmantissa :=
    mantissa_shiftRight (ExtendedMantissa.ofMantissaAndAccuracy m accuracy) (m.log2 - 52)
  rw [mantissa_ofMantissaAndAccuracy] at hmantissa
  have hplace : -1074 ≤ e + (m.log2 - 52 : Nat) := by omega
  generalize m.log2 - 52 = k at *
  obtain ⟨em, hem⟩ : ∃ em, ExtendedMantissa.ofMantissaAndAccuracy m accuracy >>> k = em := ⟨_, rfl⟩
  rw [hem] at hfirst hmantissa
  have hround := mantissa_le_roundedMantissa em
  obtain ⟨r, hr⟩ : ∃ r, em.roundedMantissa = r := ⟨_, rfl⟩
  rw [hmantissa, hr] at hround
  obtain ⟨hfull', hdvd⟩ := dvd_of_carry (r := r) (by omega) (by omega)
  obtain ⟨hlow', hhigh'⟩ := div_two_pow_log2 hfull'
  have hsecond : shiftToTargetExponent Format.binary64 r (e + (k : Nat)) .exact =
      ((⟨r, false, false⟩ : ExtendedMantissa) >>> (r.log2 - 52), _) :=
    shiftToTargetExponent_eq .exact hfull' (by omega)
  rw [shiftRight_of_dvd hdvd] at hsecond
  have hvalue := div_mul_two_pow hdvd (e + (k : Nat))
  refine ⟨_, _, by omega, ?_, hlow', hhigh', by omega, ⟨r, hround.1, hround.2, hvalue⟩, ?_⟩
  · unfold roundWithAccuracy
    simp only [hfirst, hr, hsecond]
    rw [dif_neg (by omega)]
  · rintro rfl hkdvd
    have hcut : r = m / 2 ^ k := by
      rw [← hr, ← hem]
      exact congrArg ExtendedMantissa.roundedMantissa (hexact hkdvd)
    rw [hvalue, hcut, div_mul_two_pow hkdvd]

/-! ### Rounded results -/

/-- A reading at least so far away from zero; an undefined one is nowhere. -/
def Extended.IsFar (bound : Rat) : Extended → Prop
  | undefined => False
  | finite q => bound ≤ |q|
  | bottom | top => True

/-- A rational that is the value of a double no smaller than the smallest normal one. -/
def IsNormal (q : Rat) : Prop :=
  2 ^ (-1022 : Int) ≤ |q| ∧ ∃ n : Nat, ∃ f : Int, n < 2 ^ 53 ∧ f ≤ 971 ∧ |q| = n * 2 ^ f

/-- A reading that a true result may have after rounding. Results below the normal doubles are left
open. -/
structure Rounds (q : Rat) (x : Extended) : Prop where
  /-- A result that is a double is kept. -/
  eq_finite : q = 0 ∨ IsNormal q → x = .finite q
  /-- A large result stays large. -/
  isFar : ∀ N : Nat, 2 ^ N ≤ |q| → x.IsFar (2 ^ N)

/-- A result below the normal doubles is left open. -/
theorem Rounds.of_lt {q : Rat} (x : Extended) (hzero : q ≠ 0) (hlt : |q| < 2 ^ (-1022 : Int)) :
    Rounds q x := by
  refine ⟨fun h => ?_, fun N hN => ?_⟩
  · rcases h with h | ⟨h, -⟩
    · exact absurd h hzero
    · exact absurd h (not_le.2 hlt)
  · have hone : (1 : Rat) ≤ 2 ^ N := one_le_pow₀ (by norm_num)
    have hsmall : (2 : Rat) ^ (-1022 : Int) ≤ 1 :=
      zpow_le_one_of_nonpos₀ (by norm_num) (by norm_num)
    linarith

/-- A result that is not rounded at all is a case of rounding. -/
theorem Rounds.finite (q : Rat) : Rounds q (.finite q) :=
  ⟨fun _ => rfl, fun _ h => h⟩

/-- The size of a magnitude by the length of its significand. -/
theorem magnitude_bounds {m : Nat} (hpos : 0 < m) (e : Int) :
    (2 : Rat) ^ ((m.log2 : Int) + e) ≤ m * 2 ^ e ∧
      (m : Rat) * 2 ^ e < 2 ^ ((m.log2 : Int) + 1 + e) := by
  obtain ⟨hle, hlt⟩ := log2_bounds hpos
  have he : (0 : Rat) < 2 ^ e := by positivity
  rw [zpow_add₀ (by norm_num), zpow_add₀ (by norm_num)]
  constructor
  · refine mul_le_mul_of_nonneg_right ?_ he.le
    rw [zpow_natCast]
    exact_mod_cast hle
  · refine mul_lt_mul_of_pos_right ?_ he
    rw [show (m.log2 : Int) + 1 = ((m.log2 + 1 : Nat) : Int) by push_cast; rfl, zpow_natCast]
    exact_mod_cast hlt

/-- A magnitude that is a double has nothing but zeros beyond the length of a significand. -/
theorem dvd_of_eq_double {m n : Nat} {e f : Int} (hpos : 0 < m) (hn : n < 2 ^ 53)
    (heq : (m : Rat) * 2 ^ e = n * 2 ^ f) : 2 ^ (m.log2 - 52) ∣ m := by
  have hlow := (magnitude_bounds hpos e).1
  have hhigh : (n : Rat) * 2 ^ f < 2 ^ (53 + f) := by
    rw [zpow_add₀ (by norm_num)]
    refine mul_lt_mul_of_pos_right ?_ (by positivity)
    exact_mod_cast hn
  have hexponent : (m.log2 : Int) + e < 53 + f :=
    (zpow_lt_zpow_iff_right₀ (by norm_num)).1 (lt_of_le_of_lt (heq ▸ hlow) hhigh)
  by_cases hshort : m.log2 ≤ 52
  · rw [Nat.sub_eq_zero_of_le hshort]
    exact one_dvd m
  · obtain ⟨j, hj⟩ : ∃ j : Nat, f = e + j := ⟨(f - e).toNat, by omega⟩
    have hm : m = n * 2 ^ j := by
      rw [hj, zpow_add₀ (by norm_num), mul_comm _ ((2 : Rat) ^ (j : Int)), ← mul_assoc,
        zpow_natCast] at heq
      have hcancel := mul_right_cancel₀ (by positivity) heq
      exact_mod_cast hcancel
    exact (pow_dvd_pow 2 (by omega)).trans (hm ▸ Dvd.intro_left n rfl)

/-- A sign is of absolute value one. -/
theorem abs_apply_one (s : Sign) : |((s.apply 1 : Int) : Rat)| = 1 := by
  cases s <;> simp [Sign.apply]

/-- The sign does not count in absolute value. -/
theorem abs_signed (s : Sign) (m : Nat) (e : Int) : |signed s m e| = m * 2 ^ e := by
  have hpos : (0 : Rat) < 2 ^ e := by positivity
  rw [signed_eq, abs_mul, abs_apply_one, one_mul, abs_of_nonneg (by positivity)]

/-- Only the magnitude matters, not how it is split into significand and exponent. -/
theorem signed_congr (s : Sign) {m n : Nat} {e f : Int} (h : (m : Rat) * 2 ^ e = n * 2 ^ f) :
    signed s m e = signed s n f := by
  rw [signed_eq, signed_eq, h]

/-- A positive significand stands for a number other than zero. -/
theorem signed_ne_zero (s : Sign) {m : Nat} (hpos : 0 < m) (e : Int) : signed s m e ≠ 0 := by
  rw [← abs_pos, abs_signed]
  positivity

/-- A stored number with a full significand is the number, rounded. -/
theorem rounds_stored_finite {s : Sign} {m : Nat} {e : Int} (hp : 0 < m) (hm : 2 ^ 52 ≤ m)
    (hm' : m < 2 ^ 53) (he : -1074 ≤ e) :
    Rounds (signed s m e) (stored (.finite s m e hp)) := by
  rw [stored_finite hp hm hm' he]
  split
  · exact .finite _
  · rename_i hlarge
    have hbeyond : (2 : Rat) ^ (1024 : Int) ≤ m * 2 ^ e := by
      have hlog : m.log2 = 52 := (Nat.log2_eq_iff hp.ne').2 ⟨hm, hm'⟩
      refine le_trans (zpow_le_zpow_right₀ (by norm_num) ?_) (magnitude_bounds hp e).1
      omega
    refine ⟨fun h => ?_, fun N _ => by cases s <;> exact trivial⟩
    rcases h with h | ⟨-, n, f, hn, hf, h⟩
    · exact absurd h (signed_ne_zero s hp e)
    · have hbelow : (n : Rat) * 2 ^ f < 2 ^ (1024 : Int) := by
        rw [show (1024 : Int) = 53 + 971 by norm_num, zpow_add₀ (by norm_num)]
        refine mul_lt_mul ?_ (zpow_le_zpow_right₀ (by norm_num) hf) (by positivity) (by positivity)
        exact_mod_cast hn
      rw [abs_signed] at h
      linarith

/-- A significand of at least 53 binary digits is rounded correctly. -/
theorem rounds_roundWithAccuracy (s : Sign) {m : Nat} {e : Int} (hpos : 0 < m)
    (hfull : 52 ≤ m.log2 ∨ (m.log2 : Int) + e < -1022) :
    Rounds (signed s m e) (stored (roundWithAccuracy Format.binary64 s m e .exact)) := by
  obtain ⟨hlow, hhigh⟩ := magnitude_bounds hpos e
  -- Below the normal doubles the significand is cut shorter, but nothing is said of the result
  -- there.
  by_cases hnormal : -1022 ≤ (m.log2 : Int) + e
  · have hfull : 52 ≤ m.log2 := hfull.resolve_right (by omega)
    obtain ⟨m', e', hp, heq, hm, hm', he, ⟨r, hcut, -, hvalue⟩, hexact⟩ :=
      roundWithAccuracy_eq s .exact hfull hnormal
    have hr : 2 ^ 52 ≤ r := (div_two_pow_log2 hfull).1.trans hcut
    rw [heq]
    have hstored := rounds_stored_finite (s := s) hp hm hm' he
    constructor
    · intro h
      have hdvd : 2 ^ (m.log2 - 52) ∣ m := by
        rcases h with h | ⟨-, n, f, hn, -, h⟩
        · exact absurd h (signed_ne_zero s hpos e)
        · exact dvd_of_eq_double hpos hn ((abs_signed s m e).symm.trans h)
      rw [signed_congr s (hexact rfl hdvd)] at hstored
      exact hstored.eq_finite h
    · intro N hN
      refine hstored.isFar N ?_
      rw [abs_signed, hvalue]
      rw [abs_signed] at hN
      have hexponent : (N : Int) < (m.log2 : Int) + 1 + e := by
        refine (zpow_lt_zpow_iff_right₀ (by norm_num : (1 : Rat) < 2)).1 ?_
        rw [zpow_natCast]
        exact lt_of_le_of_lt hN hhigh
      calc (2 : Rat) ^ N = 2 ^ (N : Int) := (zpow_natCast _ _).symm
        _ ≤ 2 ^ (52 + (e + (m.log2 - 52 : Nat))) := zpow_le_zpow_right₀ (by norm_num) (by omega)
        _ = 2 ^ 52 * 2 ^ (e + (m.log2 - 52 : Nat)) := zpow_add₀ (by norm_num) _ _
        _ ≤ r * 2 ^ (e + (m.log2 - 52 : Nat)) := by
          refine mul_le_mul_of_nonneg_right ?_ (by positivity)
          exact_mod_cast hr
  · refine .of_lt _ (signed_ne_zero s hpos e) ?_
    rw [abs_signed]
    exact hhigh.trans_le (zpow_le_zpow_right₀ (by norm_num) (by omega))

/-- A shift to the left adds binary digits. -/
theorem log2_shiftLeft {m : Nat} (hpos : 0 < m) (k : Nat) : (m <<< k).log2 = m.log2 + k := by
  obtain ⟨hle, hlt⟩ := log2_bounds hpos
  rw [Nat.shiftLeft_eq]
  refine (Nat.log2_eq_iff (by positivity)).2 ⟨?_, ?_⟩
  · rw [Nat.pow_add]
    exact Nat.mul_le_mul_right _ hle
  · rw [show m.log2 + k + 1 = m.log2 + 1 + k by omega, Nat.pow_add]
    exact Nat.mul_lt_mul_of_pos_right hlt (by positivity)

/-- A significand moved to the left is as large, at the smaller exponent. -/
theorem signed_shiftLeft (s : Sign) (m k : Nat) (e : Int) :
    signed s (m <<< k) (e - (k : Nat)) = signed s m e := by
  refine signed_congr s ?_
  have hmoved := div_mul_two_pow (m := m <<< k) (k := k)
    (Nat.shiftLeft_eq m k ▸ Nat.dvd_mul_left _ _) (e - (k : Nat))
  rw [← hmoved, Nat.shiftLeft_eq, Nat.mul_div_cancel _ (by positivity), sub_add_cancel]

/-- A significand is rounded correctly, also a short one. -/
theorem rounds_round (s : Sign) {m : Nat} {e : Int} (hpos : 0 < m) :
    Rounds (signed s m e) (stored (UnpackedFloat.round Format.binary64 s m e)) := by
  unfold UnpackedFloat.round decreaseExponent
  dsimp only
  have htarget : Format.binary64.targetExponent (totalExponent m e) =
      max ((m.log2 : Int) + 1 + e - 53) (-1074) := rfl
  rw [htarget]
  generalize hk : (e - max ((m.log2 : Int) + 1 + e - 53) (-1074)).toNat = k
  rw [← signed_shiftLeft s m k e]
  have hlog := log2_shiftLeft hpos k
  refine rounds_roundWithAccuracy s ?_ ?_
  · rw [Nat.shiftLeft_eq]
    positivity
  · rw [hlog]
    omega

/-- A whole number of either sign, scaled, is rounded correctly. -/
theorem rounds_normalize (v e : Int) (s : Sign) :
    Rounds ((v : Rat) * 2 ^ e) (stored (UnpackedFloat.normalize Format.binary64 v e s)) := by
  unfold UnpackedFloat.normalize
  rcases lt_trichotomy v 0 with hneg | rfl | hpos
  · have hsigned : v = Sign.negative.apply ((-v).toNat : Nat) := by
      show v = -(((-v).toNat : Nat) : Int)
      omega
    rw [show compare v 0 = .lt from compare_lt_iff_lt.2 hneg]
    conv => lhs; rw [hsigned]
    exact rounds_round .negative (by omega)
  · rw [show compare (0 : Int) 0 = .eq from rfl, Int.cast_zero, zero_mul]
    dsimp only
    rw [stored_zero]
    exact .finite 0
  · have hsigned : v = Sign.positive.apply (v.toNat : Nat) := by
      show v = (v.toNat : Int)
      omega
    rw [show compare v 0 = .gt from compare_gt_iff_gt.2 hpos]
    conv => lhs; rw [hsigned]
    exact rounds_round .positive (by omega)

/-! ### Arithmetic -/

/-- The negative of a double stands for the negative of its value. -/
theorem exact_neg {x : Float} {q : Rat} (hx : exact x = .finite q) : exact (-x) = .finite (-q) := by
  show stored x.toModel.unpack.neg = .finite (-q)
  rcases exists_of_exact_eq_finite hx with ⟨s, hunpack, rfl⟩ | ⟨s, m, e, hp, hunpack, hm, rfl⟩
  · rw [hunpack, neg_zero]
    exact stored_zero (-s)
  · have hsign : -signed s m e = signed (-s) m e := by
      unfold signed
      cases s
      · show -(((-(m : Int) : Int) : Rat) * 2 ^ e) = ((m : Int) : Rat) * 2 ^ e
        rw [Int.cast_neg, neg_mul, neg_neg]
      · show -(((m : Int) : Rat) * 2 ^ e) = ((-(m : Int) : Int) : Rat) * 2 ^ e
        rw [Int.cast_neg, neg_mul]
    rw [hunpack, hsign]
    exact stored_of_isDouble (-s) hp hm

/-- A sum of doubles is the sum of their values, rounded once. -/
theorem rounds_add {x y : Float} {p q : Rat} (hx : exact x = .finite p) (hy : exact y = .finite q) :
    Rounds (p + q) (exact (x + y)) := by
  show Rounds (p + q)
    (stored (UnpackedFloat.add Format.binary64 x.toModel.unpack y.toModel.unpack))
  rcases exists_of_exact_eq_finite hx with ⟨s, hunpack, rfl⟩ | ⟨s, m, e, hp, hunpack, hm, rfl⟩
  · rw [zero_add]
    rcases exists_of_exact_eq_finite hy with ⟨t, hunpack', rfl⟩ | ⟨t, n, f, hp, hunpack', -, hq⟩
    · rw [hunpack, hunpack']
      cases s <;> cases t <;> exact stored_zero _ ▸ .finite 0
    · have hsum : UnpackedFloat.add Format.binary64 x.toModel.unpack y.toModel.unpack =
          y.toModel.unpack := by
        rw [hunpack, hunpack']
        rfl
      rw [hsum, stored_unpack, hy, hq]
      exact .finite _
  · rcases exists_of_exact_eq_finite hy with ⟨t, hunpack', rfl⟩ | ⟨t, n, f, hp', hunpack', hn, rfl⟩
    · have hsum : UnpackedFloat.add Format.binary64 x.toModel.unpack y.toModel.unpack =
          x.toModel.unpack := by
        rw [hunpack, hunpack']
        rfl
      rw [hsum, add_zero, stored_unpack, hx]
      exact .finite _
    · rw [hunpack, hunpack']
      -- Both summands are brought to the smaller exponent, so that their significands can be added.
      have hleft := signed_shiftLeft s m (e - min e f).toNat e
      have hright := signed_shiftLeft t n (f - min e f).toNat f
      rw [show e - ((e - min e f).toNat : Int) = min e f by omega] at hleft
      rw [show f - ((f - min e f).toNat : Int) = min e f by omega] at hright
      rw [← hleft, ← hright, signed, signed, ← add_mul, ← Int.cast_add]
      exact rounds_normalize _ _ _

/-- The product of two significands is long enough to be rounded, unless both are short; the product
is then tiny. -/
theorem log2_mul {m n : Nat} {e f : Int} (hm : 0 < m) (hn : 0 < n) (he : IsDouble m e)
    (hf : IsDouble n f) :
    52 ≤ (m * n).log2 ∨ ((m * n).log2 : Int) + (e + f) < -1022 := by
  have hpos : m * n ≠ 0 := (Nat.mul_pos hm hn).ne'
  rcases he.full_or_lowest with ⟨hfull, -⟩ | ⟨hshort, rfl⟩
  · exact .inl ((Nat.le_log2 hpos).2 (hfull.trans (Nat.le_mul_of_pos_right m hn)))
  · rcases hf.full_or_lowest with ⟨hfull, -⟩ | ⟨hshort', rfl⟩
    · exact .inl ((Nat.le_log2 hpos).2 (hfull.trans (Nat.le_mul_of_pos_left n hm)))
    · have hlt : (m * n).log2 < 104 := by
        rw [Nat.log2_lt hpos, show 104 = 52 + 52 by norm_num, Nat.pow_add]
        exact Nat.mul_lt_mul'' hshort hshort'
      exact .inr (by omega)

/-- A product of doubles is the product of their values, rounded once. -/
theorem rounds_mul {x y : Float} {p q : Rat} (hx : exact x = .finite p) (hy : exact y = .finite q) :
    Rounds (p * q) (exact (x * y)) := by
  show Rounds (p * q)
    (stored (UnpackedFloat.mul Format.binary64 x.toModel.unpack y.toModel.unpack))
  rcases exists_of_exact_eq_finite hx with ⟨s, hunpack, rfl⟩ | ⟨s, m, e, hp, hunpack, hm, rfl⟩
  · rw [zero_mul]
    rcases exists_of_exact_eq_finite hy with ⟨t, hunpack', rfl⟩ | ⟨t, n, f, hp, hunpack', -, rfl⟩ <;>
      (rw [hunpack, hunpack']; exact stored_zero (s * t) ▸ .finite 0)
  · rcases exists_of_exact_eq_finite hy with ⟨t, hunpack', rfl⟩ | ⟨t, n, f, hp', hunpack', hn, rfl⟩
    · rw [hunpack, hunpack', mul_zero]
      exact stored_zero (s * t) ▸ .finite 0
    · rw [hunpack, hunpack']
      have hproduct : signed s m e * signed t n f = signed (s * t) (m * n) (e + f) := by
        unfold signed
        rw [zpow_add₀ (by norm_num)]
        cases s <;> cases t <;> (simp [Sign.apply]; ring)
      rw [hproduct]
      exact rounds_roundWithAccuracy (s * t) (Nat.mul_pos hp hp') (log2_mul hp hp' hm hn)

end Reticle.Number
