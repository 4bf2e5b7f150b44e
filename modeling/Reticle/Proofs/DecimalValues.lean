import Reticle.Proofs.DefinedValues
import Reticle.Proofs.Dividing

/-!
# The doubles of decimals

A decimal writes a number (`Decimal.value`), and is read as a double for it
(`Decimal.toFloat_standsFor`). A short one is the product or the quotient of two doubles, a long one
is computed from its digits; whichever way it goes, a magnitude is rounded of which a part of the
last place was cut off (`IsRounded`). So what comes out is a double next to the number, and the
number itself if it is a double. This leaves open only what is extremely small or large.
-/

namespace Reticle

namespace Text

/-! ## Digits -/

/-- A digit stands for nine at most. -/
theorem digitValue_le {c : Char} (hc : c.isDigit = true) : digitValue c ≤ 9 := by
  unfold Char.isDigit at hc
  simp only [Bool.and_eq_true, decide_eq_true_eq, ge_iff_le, UInt32.le_iff_toNat_le] at hc
  have hle : c.toNat ≤ 57 := hc.2
  have hzero : '0'.toNat = 48 := rfl
  unfold digitValue
  omega

/-- Only the digit zero has the value zero. -/
theorem digitValue_pos {c : Char} (hc : c.isDigit = true) (hne : c ≠ '0') : 0 < digitValue c := by
  unfold Char.isDigit at hc
  simp only [Bool.and_eq_true, decide_eq_true_eq, ge_iff_le, UInt32.le_iff_toNat_le] at hc
  have hle : 48 ≤ c.toNat := hc.1
  have hzero : '0'.toNat = 48 := rfl
  have hother : c.toNat ≠ '0'.toNat := fun heq => hne (Char.toNat_inj.1 heq)
  unfold digitValue
  omega

/-- A first digit counts as often as there are numbers of the digits after it. -/
theorem numeral_cons (c : Char) (digits : List Char) :
    numeral (c :: digits) = digitValue c * 10 ^ digits.length + numeral digits := by
  have hfold : ∀ (digits : List Char) (first : Nat),
      digits.foldl (fun value c => 10 * value + digitValue c) first =
        first * 10 ^ digits.length + numeral digits := by
    intro digits
    unfold numeral
    induction digits with
    | nil => simp
    | cons d rest ih =>
      intro first
      rw [List.foldl_cons, List.foldl_cons, ih, ih (10 * 0 + digitValue d), List.length_cons,
        pow_succ]
      ring
  unfold numeral
  rw [List.foldl_cons, hfold, Nat.mul_zero, Nat.zero_add]
  rfl

/-- A numeral of n digits is less than the n-th power of ten. -/
theorem numeral_lt {digits : List Char} (h : ∀ c ∈ digits, c.isDigit = true) :
    numeral digits < 10 ^ digits.length := by
  induction digits with
  | nil => decide
  | cons c rest ih =>
    obtain ⟨hc, hrest⟩ := List.forall_mem_cons.1 h
    rw [numeral_cons, List.length_cons, pow_succ]
    have hle := Nat.mul_le_mul_right (10 ^ rest.length) (digitValue_le hc)
    have hlt := ih hrest
    omega

/-- A text of digits that does not begin with zero writes a number of its full length. -/
theorem le_numeral_cons {c : Char} {digits : List Char} (hc : c.isDigit = true) (hne : c ≠ '0') :
    10 ^ digits.length ≤ numeral (c :: digits) := by
  rw [numeral_cons]
  exact (Nat.le_mul_of_pos_left _ (digitValue_pos hc hne)).trans (Nat.le_add_right _ _)

/-- Zeros in front do not count. -/
theorem numeral_dropWhile_zero (digits : List Char) :
    numeral (digits.dropWhile (· == '0')) = numeral digits := by
  induction digits with
  | nil => rfl
  | cons c rest ih =>
    by_cases hc : c = '0'
    · subst hc
      rw [List.dropWhile_cons_of_pos (by decide), ih, numeral_cons]
      simp [digitValue]
    · rw [List.dropWhile_cons_of_neg (by simpa using hc)]

end Text

namespace Number

open Float.Model Float.Model.UnpackedFloat

/-! ## Rounded magnitudes -/

/-- A value comes from rounding a magnitude of which a part of the last place was cut off. -/
def IsRounded (q : Rat) (x : Extended) : Prop :=
  ∃ (m : Nat) (e : Int) (accuracy : Accuracy), 52 ≤ m.log2 ∧ Truncates m e accuracy q ∧
    x = stored (roundWithAccuracy Format.binary64 .positive m e accuracy)

/-- A positive significand with its exponent, as a rational. -/
theorem signed_positive (m : Nat) (e : Int) : signed .positive m e = m * 2 ^ e := by
  simp [signed, Sign.apply]

/-- Where nothing is cut off, the significand keeps the number itself. -/
theorem truncates_exact (m : Nat) (e : Int) : Truncates m e .exact (m * 2 ^ e) := by
  have hone := ofMantissaAndAccuracy_div m Nat.one_pos
  unfold Truncates
  rw [mul_div_cancel_right₀ _ (by positivity)]
  simpa [accuracyOfFraction, Nat.mod_one] using hone

namespace IsRounded

variable {q : Rat} {x : Extended} (h : IsRounded q x) (hsmall : 2 ^ (-1000 : Int) ≤ q)
include h hsmall

/-- A rounded magnitude is a double next to it. -/
theorem exists_near (hlarge : q ≤ 2 ^ (1000 : Int)) :
    ∃ r, x = .finite r ∧ |r - q| ≤ 2 ^ (-52 : Int) * q := by
  obtain ⟨m, e, accuracy, hfull, htruncates, rfl⟩ := h
  obtain ⟨r, hr, hnear⟩ := exists_near_roundWithAccuracy .positive htruncates hfull hsmall hlarge
  refine ⟨r, ?_, hnear⟩
  rw [hr]
  norm_num [Sign.apply]

/-- A double is rounded to itself. -/
theorem eq_of_isNormal (hnormal : IsNormal q) : x = .finite q := by
  obtain ⟨m, e, accuracy, hfull, htruncates, rfl⟩ := h
  have hpos : 0 < q := lt_of_lt_of_le (by positivity) hsmall
  obtain ⟨-, n, f, -, -, hq⟩ := id hnormal
  rw [abs_of_pos hpos] at hq
  have hn : 0 < n := Nat.pos_of_ne_zero fun hzero => by simp [hzero, hq] at hpos
  -- The same double with its significand made long enough.
  have hlong : q = (n <<< 52 : Nat) * 2 ^ (f - 52) := by
    rw [hq, Nat.shiftLeft_eq, zpow_sub₀ (by norm_num)]
    push_cast
    ring
  have hfull' : 52 ≤ (n <<< 52).log2 := by
    rw [log2_shiftLeft hn]
    omega
  have hpos' : 0 < n <<< 52 := by
    rw [Nat.shiftLeft_eq]
    positivity
  have htruncates' : Truncates (n <<< 52) (f - 52) .exact q := hlong ▸ truncates_exact _ _
  have hrounds := rounds_roundWithAccuracy .positive (e := f - 52) hpos' (.inl hfull')
  have hsigned : signed .positive (n <<< 52) (f - 52) = q := by
    rw [signed_positive, ← hlong]
  rw [htruncates.roundWithAccuracy_congr htruncates' hfull hfull' hsmall]
  exact (hsigned ▸ hrounds).eq_finite (.inr hnormal)

end IsRounded

/-! ## Products and quotients of magnitudes -/

/-- The product of two magnitudes is rounded if it is long enough. -/
theorem isRounded_mul {m n : Nat} {e f : Int} (hm : 0 < m) (hn : 0 < n)
    (hfull : 52 ≤ (m * n).log2) :
    IsRounded ((m * 2 ^ e) * (n * 2 ^ f))
      (stored (UnpackedFloat.mul Format.binary64 (.finite .positive m e hm)
        (.finite .positive n f hn))) := by
  refine ⟨m * n, e + f, .exact, hfull, ?_, rfl⟩
  have hvalue : (m * 2 ^ e : Rat) * (n * 2 ^ f) = (m * n : Nat) * 2 ^ (e + f) := by
    rw [zpow_add₀ (by norm_num)]
    push_cast
    ring
  rw [hvalue]
  exact truncates_exact _ _

/-- The quotient of two magnitudes is rounded unless it is extremely small. -/
theorem isRounded_div {m n : Nat} {e f : Int} (hm : 0 < m) (hn : 0 < n)
    (hsmall : 2 ^ (-1000 : Int) ≤ (m * 2 ^ e : Rat) / (n * 2 ^ f)) :
    IsRounded ((m * 2 ^ e) / (n * 2 ^ f))
      (stored (UnpackedFloat.div Format.binary64 (.finite .positive m e hm)
        (.finite .positive n f hn))) := by
  have hnormal : -1000 ≤ (m.log2 : Int) - n.log2 + e - f := by
    have hlt := hsmall.trans_lt (quotient_lt hm hn e f)
    have := (zpow_lt_zpow_iff_right₀ (by norm_num : (1 : Rat) < 2)).1 hlt
    omega
  obtain ⟨c, place, accuracy, hcore, hfull, htruncates⟩ := divCore_eq hm hn hnormal
  refine ⟨c, place, accuracy, hfull, htruncates, ?_⟩
  unfold UnpackedFloat.div
  simp only [hcore]
  rfl

/-- A positive double is unpacked as a positive magnitude. -/
theorem exists_unpack_of_pos {x : Float} {q : Rat} (hx : exact x = .finite q) (hq : 0 < q) :
    ∃ m e hm, x.toModel.unpack = .finite .positive m e hm ∧ IsDouble m e ∧ q = m * 2 ^ e := by
  rcases exists_of_exact_eq_finite hx with ⟨-, -, hzero⟩ | ⟨s, m, e, hm, hunpack, hdouble, hvalue⟩
  · exact absurd hzero hq.ne'
  · cases s with
    | positive =>
      refine ⟨m, e, hm, hunpack, hdouble, ?_⟩
      rw [hvalue, signed_positive]
    | negative =>
      have hnonneg : (0 : Rat) ≤ m * 2 ^ e := by positivity
      rw [signed_eq] at hvalue
      norm_num [Sign.apply] at hvalue
      linarith

section Doubles

variable {x y : Float} {p q : Rat} (hx : exact x = .finite p) (hy : exact y = .finite q)
  (hp : 0 < p) (hq : 0 < q)
include hx hy hp hq

/-- A product of doubles is the product of their values, rounded once. -/
theorem isRounded_double_mul (hsmall : 2 ^ (-1000 : Int) ≤ p * q) :
    IsRounded (p * q) (exact (x * y)) := by
  obtain ⟨m, e, hm, hunpack, hdouble, rfl⟩ := exists_unpack_of_pos hx hp
  obtain ⟨n, f, hn, hunpack', hdouble', rfl⟩ := exists_unpack_of_pos hy hq
  show IsRounded _ (stored (UnpackedFloat.mul Format.binary64 x.toModel.unpack y.toModel.unpack))
  rw [hunpack, hunpack']
  refine isRounded_mul hm hn ((log2_mul hm hn hdouble hdouble').resolve_right fun htiny => ?_)
  have hpos : 0 < m * n := Nat.mul_pos hm hn
  have hbound := (magnitude_bounds hpos (e + f)).2
  have hvalue : (m * 2 ^ e : Rat) * (n * 2 ^ f) = (m * n : Nat) * 2 ^ (e + f) := by
    rw [zpow_add₀ (by norm_num)]
    push_cast
    ring
  rw [hvalue] at hsmall
  have := (zpow_lt_zpow_iff_right₀ (by norm_num : (1 : Rat) < 2)).1 (hsmall.trans_lt hbound)
  omega

/-- A quotient of doubles is the quotient of their values, rounded once. -/
theorem isRounded_double_div (hsmall : 2 ^ (-1000 : Int) ≤ p / q) :
    IsRounded (p / q) (exact (x / y)) := by
  obtain ⟨m, e, hm, hunpack, -, rfl⟩ := exists_unpack_of_pos hx hp
  obtain ⟨n, f, hn, hunpack', -, rfl⟩ := exists_unpack_of_pos hy hq
  show IsRounded _ (stored (UnpackedFloat.div Format.binary64 x.toModel.unpack y.toModel.unpack))
  rw [hunpack, hunpack']
  exact isRounded_div hm hn hsmall

end Doubles

/-! ## Digits and a power of ten -/

/-- The power of ten that a count of places stands for. -/
def powerOfTen (negative : Bool) (k : Nat) : Int :=
  if negative then -k else k

/-- A number between the bounds has a power of ten for which digits are not given up. -/
theorem places_of_bounds {m : Nat} (hm : 0 < m) {e : Int}
    (hsmall : 2 ^ (-1000 : Int) ≤ (m * 10 ^ e : Rat))
    (hlarge : (m * 10 ^ e : Rat) ≤ 2 ^ (1000 : Int)) : e ≤ 1000 ∧ -1001 - m.log2 ≤ e := by
  have hm' : (1 : Rat) ≤ m := by exact_mod_cast hm
  constructor
  · by_contra hlt
    have hpower : (2 : Rat) ^ e ≤ 10 ^ e :=
      zpow_le_zpow_left₀ (by omega) (by norm_num) (by norm_num)
    have hle : (2 : Rat) ^ e ≤ 2 ^ (1000 : Int) :=
      hpower.trans ((le_mul_of_one_le_left (by positivity) hm').trans hlarge)
    have := (zpow_le_zpow_iff_right₀ (by norm_num : (1 : Rat) < 2)).1 hle
    omega
  · by_contra hlt
    have hpower : (10 : Rat) ^ e ≤ 2 ^ e := by
      have hinverse : (2 : Rat) ^ (-e) ≤ 10 ^ (-e) :=
        zpow_le_zpow_left₀ (by omega) (by norm_num) (by norm_num)
      rw [zpow_neg, zpow_neg] at hinverse
      exact (inv_le_inv₀ (by positivity) (by positivity)).1 hinverse
    have hlength : (m : Rat) < 2 ^ ((m.log2 : Int) + 1) := by
      exact_mod_cast (log2_bounds hm).2
    have hle : (2 : Rat) ^ (-1000 : Int) < 2 ^ ((m.log2 : Int) + 1 + e) := by
      calc (2 : Rat) ^ (-1000 : Int) ≤ m * 10 ^ e := hsmall
        _ ≤ m * 2 ^ e := mul_le_mul_of_nonneg_left hpower (by positivity)
        _ < 2 ^ ((m.log2 : Int) + 1) * 2 ^ e := mul_lt_mul_of_pos_right hlength (by positivity)
        _ = 2 ^ ((m.log2 : Int) + 1 + e) := (zpow_add₀ (by norm_num) _ _).symm
    have := (zpow_lt_zpow_iff_right₀ (by norm_num : (1 : Rat) < 2)).1 hle
    omega

/-- A power of ten that is computed as a natural number is that power. -/
theorem cast_ten_pow_toNat {e : Int} (he : 0 ≤ e) : ((10 ^ e.toNat : Nat) : Rat) = 10 ^ e := by
  have hplaces : ((e.toNat : Nat) : Int) = e := Int.toNat_of_nonneg he
  rw [Nat.cast_pow, ← zpow_natCast, hplaces]
  norm_num

/-- Digits that are too many for a product or quotient of doubles are rounded all the same. -/
theorem isRounded_unpacked_ofScientific {m : Nat} (hm : 0 < m) {e : Int}
    (hsmall : 2 ^ (-1000 : Int) ≤ (m * 10 ^ e : Rat))
    (hlarge : (m * 10 ^ e : Rat) ≤ 2 ^ (1000 : Int)) :
    IsRounded (m * 10 ^ e) (stored (UnpackedFloat.ofScientific Format.binary64 m e)) := by
  obtain ⟨hhigh, hlow⟩ := places_of_bounds hm hsmall hlarge
  have hbits : (2 : Int) ^ Format.binary64.exponentBits = 2048 := by decide
  unfold UnpackedFloat.ofScientific
  rw [dif_neg hm.ne', if_neg (by rw [hbits]; omega), if_neg (by rw [hbits]; omega)]
  split
  · next hnonneg =>
    have hlong : 0 < m <<< 53 := by
      rw [Nat.shiftLeft_eq]
      positivity
    have hten : 0 < 10 ^ e.toNat := by positivity
    have hvalue : (m * 10 ^ e : Rat) =
        ((m <<< 53 : Nat) * 2 ^ (-53 : Int)) * ((10 ^ e.toNat : Nat) * 2 ^ (0 : Int)) := by
      rw [cast_ten_pow_toNat hnonneg, Nat.shiftLeft_eq, zpow_neg]
      push_cast
      field_simp
    have hproduct : 2 ^ 52 ≤ (m <<< 53) * 10 ^ e.toNat := by
      refine le_trans ?_ (Nat.le_mul_of_pos_right _ hten)
      rw [Nat.shiftLeft_eq]
      omega
    rw [hvalue]
    exact isRounded_mul hlong hten ((Nat.le_log2 (Nat.mul_pos hlong hten).ne').2 hproduct)
  · next hneg =>
    have hten : 0 < 10 ^ (-e).toNat := by positivity
    have hvalue : (m * 10 ^ e : Rat) =
        (m * 2 ^ (0 : Int)) / ((10 ^ (-e).toNat : Nat) * 2 ^ (0 : Int)) := by
      rw [cast_ten_pow_toNat (by omega), zpow_neg, zpow_zero, mul_one, mul_one, div_inv_eq_mul]
    rw [hvalue] at hsmall ⊢
    exact isRounded_div hm hten hsmall

/-- Whichever way it goes, digits with a power of ten are rounded, unless they write something
extremely small or large. -/
theorem isRounded_ofScientific {m : Nat} (hm : 0 < m) (negative : Bool) (k : Nat)
    (hsmall : 2 ^ (-1000 : Int) ≤ (m * 10 ^ powerOfTen negative k : Rat))
    (hlarge : (m * 10 ^ powerOfTen negative k : Rat) ≤ 2 ^ (1000 : Int)) :
    IsRounded (m * 10 ^ powerOfTen negative k) (exact (.ofScientific m negative k)) := by
  have hm' : (0 : Rat) < m := by exact_mod_cast hm
  unfold Float.ofScientific
  split
  · next hfast =>
    have hx : exact m.toUInt64.toFloat = .finite m := by
      exact_mod_cast exact_toFloat hfast.1
    have hy := exact_powerOfTen (Nat.lt_succ_of_le hfast.2)
    have hten : (0 : Rat) < 10 ^ k := by positivity
    cases negative with
    | true =>
      have hvalue : (m * 10 ^ powerOfTen true k : Rat) = m / 10 ^ k := by
        simp [powerOfTen, div_eq_mul_inv]
      rw [hvalue] at hsmall ⊢
      exact isRounded_double_div hx hy hm' hten hsmall
    | false =>
      have hvalue : (m * 10 ^ powerOfTen false k : Rat) = m * 10 ^ k := by
        simp [powerOfTen]
      rw [hvalue] at hsmall ⊢
      exact isRounded_double_mul hx hy hm' hten hsmall
  · have hplaces : (if negative = true then Int.negOfNat k else Int.ofNat k) =
        powerOfTen negative k := by
      cases negative with
      | true => exact Int.negOfNat_eq
      | false => rfl
    dsimp only
    rw [hplaces]
    exact isRounded_unpacked_ofScientific hm hsmall hlarge

/-! ## Decimals -/

/-- The number that a decimal writes. -/
def Decimal.value (d : Decimal) : Rat :=
  Text.numeral (d.whole ++ d.fraction) * 10 ^ (d.exponent - d.fraction.length)

/-- The digits of a decimal but for the zeros in front. -/
def Decimal.significant (d : Decimal) : List Char :=
  (d.whole ++ d.fraction).dropWhile (· == '0')

/-- The value of a decimal is that of its significant digits, the point moved behind them. -/
theorem Decimal.value_eq (d : Decimal) :
    d.value = Text.numeral d.significant * 10 ^ (d.exponent - d.fraction.length) := by
  unfold value significant
  rw [Text.numeral_dropWhile_zero]

/-- The significant digits start with no zero. -/
theorem Decimal.head_significant_ne (d : Decimal) : ∀ c ∈ d.significant.head?, c ≠ '0' := by
  rintro c hc rfl
  have hnot := List.head?_dropWhile_not (· == '0') (d.whole ++ d.fraction)
  unfold significant at hc
  rw [Option.mem_def.1 hc] at hnot
  exact Bool.noConfusion hnot

/-- A decimal that is made of digits. -/
def Decimal.IsWritten (d : Decimal) : Prop :=
  ∀ c ∈ d.whole ++ d.fraction, c.isDigit = true

/-- A value stands for a number. Zero stands for itself. Any other number that is not extremely small
or large has a double next to it, which is the number itself if it is a double. -/
structure StandsFor (x : Extended) (q : Rat) : Prop where
  eq_zero : q = 0 → x = .finite 0
  near : 2 ^ (-1000 : Int) ≤ q → q ≤ 2 ^ (1000 : Int) →
    ∃ r, x = .finite r ∧ |r - q| ≤ 2 ^ (-52 : Int) * q
  eq : 2 ^ (-1000 : Int) ≤ q → q ≤ 2 ^ (1000 : Int) → IsNormal q → x = .finite q

/-- Numbers up to the 1000th power of two have fewer than 311 digits before the point. -/
theorem two_pow_lt_ten_pow : (2 : Rat) ^ (1000 : Int) < 10 ^ (310 : Int) := by
  have hnat : 2 ^ 1000 < 10 ^ 310 := by decide +kernel
  exact_mod_cast hnat

/-- Digits that begin with another digit than zero write a number of the size that their places
say. -/
theorem places_of_numeral {digits : List Char} (hdigits : ∀ c ∈ digits, c.isDigit = true)
    (hne : digits ≠ []) (hfirst : ∀ c ∈ digits.head?, c ≠ '0') {shift : Int}
    (hsmall : 2 ^ (-1000 : Int) ≤ (Text.numeral digits * 10 ^ shift : Rat))
    (hlarge : (Text.numeral digits * 10 ^ shift : Rat) ≤ 2 ^ (1000 : Int)) :
    0 < Text.numeral digits ∧ -330 ≤ shift + digits.length ∧ shift + digits.length ≤ 310 := by
  obtain ⟨c, rest, rfl⟩ := List.exists_cons_of_ne_nil hne
  have hlow : 10 ^ rest.length ≤ Text.numeral (c :: rest) :=
    Text.le_numeral_cons (hdigits c List.mem_cons_self) (hfirst c (by simp))
  have hhigh := Text.numeral_lt hdigits
  refine ⟨lt_of_lt_of_le (by positivity) hlow, ?_, ?_⟩
  · by_contra hlt
    have hbelow : (2 : Rat) ^ (-1000 : Int) < 10 ^ (-310 : Int) := by
      calc (2 : Rat) ^ (-1000 : Int) ≤ Text.numeral (c :: rest) * 10 ^ shift := hsmall
        _ < ((10 ^ (c :: rest).length : Nat) : Rat) * 10 ^ shift :=
          mul_lt_mul_of_pos_right (by exact_mod_cast hhigh) (by positivity)
        _ = 10 ^ (((c :: rest).length : Int) + shift) := by
          rw [zpow_add₀ (by norm_num), zpow_natCast]
          norm_num
        _ ≤ 10 ^ (-310 : Int) := zpow_le_zpow_right₀ (by norm_num) (by omega)
    rw [zpow_neg, zpow_neg, inv_lt_inv₀ (by positivity) (by positivity)] at hbelow
    exact lt_asymm hbelow two_pow_lt_ten_pow
  · by_contra hlt
    have habove : (10 : Rat) ^ (310 : Int) ≤ 2 ^ (1000 : Int) := by
      calc (10 : Rat) ^ (310 : Int) ≤ 10 ^ ((rest.length : Int) + shift) := by
            refine zpow_le_zpow_right₀ (by norm_num) ?_
            rw [List.length_cons] at hlt
            omega
        _ = ((10 ^ rest.length : Nat) : Rat) * 10 ^ shift := by
          rw [zpow_add₀ (by norm_num), zpow_natCast]
          norm_num
        _ ≤ Text.numeral (c :: rest) * 10 ^ shift :=
          mul_le_mul_of_nonneg_right (by exact_mod_cast hlow) (by positivity)
        _ ≤ 2 ^ (1000 : Int) := hlarge
    exact absurd two_pow_lt_ten_pow habove.not_gt

section

variable {d : Decimal} (h : d.IsWritten)
include h

/-- The significant digits are digits. -/
theorem Decimal.isDigit_of_mem_significant : ∀ c ∈ d.significant, c.isDigit = true :=
  fun c hc => h c ((List.dropWhile_sublist _).subset hc)

/-- Without a digit that counts, a decimal writes zero. -/
theorem Decimal.value_eq_zero_iff : d.value = 0 ↔ d.significant = [] := by
  rw [d.value_eq]
  constructor
  · intro hzero
    by_contra hne
    obtain ⟨c, rest, hdigits⟩ := List.exists_cons_of_ne_nil hne
    have hpos : 0 < Text.numeral d.significant := by
      rw [hdigits]
      refine lt_of_lt_of_le (by positivity) (Text.le_numeral_cons ?_ (d.head_significant_ne c ?_))
      · exact isDigit_of_mem_significant h c (hdigits ▸ List.mem_cons_self)
      · simp [hdigits]
    have hpos' : (0 : Rat) < Text.numeral d.significant := by exact_mod_cast hpos
    exact (mul_pos hpos' (by positivity)).ne' hzero
  · intro hnone
    simp [hnone, Text.numeral]

/-- A decimal of value zero is read as zero. -/
theorem Decimal.exact_toFloat_of_value_eq_zero (hzero : d.value = 0) :
    exact d.toFloat = .finite 0 := by
  have hnone := (value_eq_zero_iff h).1 hzero
  have hread : d.toFloat = 0 := by
    unfold significant at hnone
    unfold toFloat
    simp [hnone]
  rw [hread]
  decide +kernel

/-- The number that a decimal writes is rounded, unless it is extremely small or large. -/
theorem Decimal.isRounded_toFloat (hsmall : 2 ^ (-1000 : Int) ≤ d.value)
    (hlarge : d.value ≤ 2 ^ (1000 : Int)) : IsRounded d.value (exact d.toFloat) := by
  have hne : d.significant ≠ [] := by
    rw [Ne, ← value_eq_zero_iff h]
    intro hzero
    rw [hzero] at hsmall
    exact absurd hsmall (not_le.2 (by positivity))
  rw [d.value_eq] at hsmall hlarge ⊢
  obtain ⟨hpos, hlow, hhigh⟩ := places_of_numeral (isDigit_of_mem_significant h) hne
    d.head_significant_ne hsmall hlarge
  have hread : d.toFloat = .ofScientific (Text.numeral d.significant)
      (d.exponent - d.fraction.length < 0) (d.exponent - d.fraction.length).natAbs := by
    unfold significant at hne hlow hhigh ⊢
    unfold toFloat
    dsimp only
    rw [if_neg, if_neg (by omega)]
    simpa [hne] using hlow
  have hpower : powerOfTen (d.exponent - d.fraction.length < 0)
      (d.exponent - d.fraction.length).natAbs = d.exponent - d.fraction.length := by
    unfold powerOfTen
    split
    · next hneg =>
      have := of_decide_eq_true hneg
      omega
    · next hnonneg =>
      have : ¬ d.exponent - d.fraction.length < 0 := fun hlt => hnonneg (decide_eq_true hlt)
      omega
  have hrounded := isRounded_ofScientific hpos (d.exponent - d.fraction.length < 0)
    (d.exponent - d.fraction.length).natAbs
  rw [hpower] at hrounded
  rw [hread]
  exact hrounded hsmall hlarge

/-- A decimal is read as a double for the number that it writes. -/
theorem Decimal.toFloat_standsFor : StandsFor (exact d.toFloat) d.value where
  eq_zero := exact_toFloat_of_value_eq_zero h
  near hsmall hlarge := (isRounded_toFloat h hsmall hlarge).exists_near hsmall hlarge
  eq hsmall hlarge := (isRounded_toFloat h hsmall hlarge).eq_of_isNormal hsmall

end

example : Decimal.value ⟨['1'], ['2', '5'], 1⟩ = 25 / 2 := by
  decide +kernel

/-- A decimal that is read from a text is made of digits. -/
theorem isWritten_of_scanDecimal {text rest : List Char} {d : Decimal}
    (h : scanDecimal text = some (d, rest)) : d.IsWritten := by
  have hdigits : ∀ (run : List Char), ∀ c ∈ run.takeWhile Char.isDigit, c.isDigit = true :=
    fun run c hc => List.mem_takeWhile_imp hc
  unfold scanDecimal at h
  dsimp only at h
  split at h
  · next after _ =>
    split at h
    · cases h
    · cases h
      intro c hc
      exact (List.mem_append.1 hc).elim (hdigits text c) (hdigits after c)
  · split at h
    · cases h
    · cases h
      intro c hc
      rw [List.append_nil] at hc
      exact hdigits text c hc

/-- What a text is read as, as an unsigned decimal, stands for the number that the text writes. -/
theorem readPlain_standsFor {text : List Char} {x : Float} (h : readPlain text = some x) :
    ∃ d, scanDecimal text = some (d, []) ∧ StandsFor (exact x) d.value := by
  unfold readPlain at h
  split at h
  · next d hscan =>
    cases h
    exact ⟨d, hscan, Decimal.toFloat_standsFor (isWritten_of_scanDecimal hscan)⟩
  · cases h

end Number

/-- So does the value of a numeral in a formula. -/
theorem Formula.Numeral.value_standsFor (n : Numeral) :
    Number.StandsFor (Number.exact n.value) (Number.Decimal.value ⟨n.whole, n.fraction, 0⟩) := by
  refine Number.Decimal.toFloat_standsFor fun c hc => ?_
  exact (List.mem_append.1 hc).elim (n.isDigit_whole c) (n.isDigit_fraction c)

end Reticle
