import Mathlib
import Reticle.Number.Exact

/-!
# What a double stands for

The exact value of a double is decoded from its bits; its arithmetic is defined on sign, significand
and exponent. Here the two are joined: the decoding is the reading of the unpacked double
(`exact_eq_reading`), whose significand is full unless the exponent is the smallest one
(`exists_of_exact_eq_finite`), and a number with a full significand is read back after it has been
stored, as an infinity if it is too large (`stored_finite`).
-/

namespace Reticle.Number

open Float.Model Float.Model.UnpackedFloat

/-! ### Decoding the bits -/

/-- The stored bits of a double. -/
abbrev bitsOf (x : Float) : BitVec Format.binary64.numBits :=
  x.toModel.toBits.toBitVec

/-- The fraction is the field of the mantissa in the bits of the double. -/
theorem fractionBits_eq (x : Float) :
    fractionBits x = (unpackMantissa (bitsOf x)).toNat := by
  unfold fractionBits unpackMantissa
  rw [BitVec.toNat_cast, BitVec.extractLsb_toNat, UInt64.toNat_and]
  exact Nat.and_two_pow_sub_one_eq_mod x.toBits.toNat 52

/-- The biased exponent is the field of the exponent in the bits of the double. -/
theorem biasedExponent_eq (x : Float) :
    biasedExponent x = (unpackExponent (bitsOf x)).toNat := by
  unfold biasedExponent unpackExponent
  rw [BitVec.toNat_cast, BitVec.extractLsb_toNat, UInt64.toNat_and, UInt64.toNat_shiftRight]
  exact Nat.and_two_pow_sub_one_eq_mod (x.toBits.toNat >>> 52) 11

/-- The leading bit of a significand is not stored. -/
theorem toNat_implicit_append (fraction : BitVec 52) :
    (1#1 ++ fraction).toNat = 2 ^ 52 + fraction.toNat := by
  rw [BitVec.toNat_append, ← Nat.shiftLeft_add_eq_or_of_lt fraction.isLt]
  rfl

/-- The sign is the first of the bits. -/
theorem sign_eq (x : Float) :
    Sign.ofBitVec (unpackSign (bitsOf x)) = if isNegative x then .negative else .positive := by
  have hbit : (unpackSign (bitsOf x)).toNat = (x.toBits >>> 63).toNat := by
    have hlt : x.toBits.toNat >>> 63 < 2 := by
      have := x.toBits.toNat_lt
      rw [Nat.shiftRight_eq_div_pow]
      omega
    unfold unpackSign
    rw [BitVec.toNat_cast, BitVec.extractLsb_toNat, UInt64.toNat_shiftRight]
    exact Nat.mod_eq_of_lt hlt
  unfold isNegative Sign.ofBitVec
  rcases (by decide +revert : ∀ b : BitVec 1, b = 0#1 ∨ b = 1#1) (unpackSign (bitsOf x)) with h | h
  · rw [h] at hbit ⊢
    have hzero : x.toBits >>> 63 = 0 := UInt64.toNat_inj.1 hbit.symm
    rw [hzero]
    rfl
  · rw [h] at hbit ⊢
    have hone : x.toBits >>> 63 = 1 := UInt64.toNat_inj.1 hbit.symm
    rw [hone]
    rfl

/-- A magnitude is its significand scaled by a power of two, also where it is stored as a quotient.
-/
theorem Magnitude.value_eq (m : Magnitude) :
    m.value = (m.significand : Rat) * (2 : Rat) ^ m.exponent := by
  obtain ⟨s, e, _⟩ := m
  cases e with
  | ofNat k =>
    show ((s * Nat.pow 2 k : Nat) : Rat) = (s : Rat) * 2 ^ ((k : Nat) : Int)
    rw [zpow_natCast, Nat.cast_mul, Nat.pow_eq, Nat.cast_pow, Nat.cast_ofNat]
  | negSucc k =>
    show mkRat s (Nat.pow 2 (k + 1)) = (s : Rat) * 2 ^ (Int.negSucc k)
    rw [zpow_negSucc, Rat.mkRat_eq_div, Nat.pow_eq, Nat.cast_pow, Nat.cast_ofNat, div_eq_mul_inv,
      Int.cast_natCast]

/-- The value of a sign, a significand and an exponent. -/
def signed (s : Sign) (m : Nat) (e : Int) : Rat :=
  (s.apply m : Int) * 2 ^ e

/-- The sign is a factor of one or minus one. -/
theorem signed_eq (s : Sign) (m : Nat) (e : Int) : signed s m e = s.apply 1 * (m * 2 ^ e) := by
  unfold signed
  cases s <;> simp [Sign.apply]

/-- What an unpacked double stands for. -/
def reading : UnpackedFloat → Extended
  | .notANumber => .undefined
  | .infinity .negative => .bottom
  | .infinity .positive => .top
  | .zero _ => .finite 0
  | .finite s m e _ => .finite (signed s m e)

/-- The decoding of the project is the reading of the unpacked double. -/
theorem exact_eq_reading (x : Float) : exact x = reading x.toModel.unpack := by
  have hmantissa := fractionBits_eq x
  have hexponent := biasedExponent_eq x
  have hsign := sign_eq x
  -- The two special exponents and the empty fraction, as bits and as numbers.
  have hall : (unpackExponent (bitsOf x) = -1#_) ↔ biasedExponent x = 0x7FF := by
    rw [hexponent, ← BitVec.toNat_inj]
    rfl
  have hnone : (unpackExponent (bitsOf x) = 0#_) ↔ biasedExponent x = 0 := by
    rw [hexponent, ← BitVec.toNat_inj]
    rfl
  have hzero : (unpackMantissa (bitsOf x) = 0#_) ↔ fractionBits x = 0 := by
    rw [hmantissa, ← BitVec.toNat_inj]
    rfl
  show exact x = reading (UnpackedFloat.unpack Format.binary64 (bitsOf x))
  unfold exact UnpackedFloat.unpack
  dsimp only
  rw [hsign]
  simp only [hall, hnone, hzero]
  split
  · by_cases hf : fractionBits x = 0
    · rw [if_neg (by simpa using hf), if_pos hf]
      cases isNegative x <;> rfl
    · rw [if_pos hf, if_neg hf]
      rfl
  · have hsigned : ∀ q : Rat, (if isNegative x then -q else q) =
        (if isNegative x then Sign.negative else Sign.positive).apply 1 * q := by
      intro q
      cases isNegative x <;> simp [Sign.apply]
    rw [hsigned, Magnitude.value_eq]
    unfold magnitude
    by_cases he : biasedExponent x = 0
    · rw [if_pos he, if_pos he]
      by_cases hf : fractionBits x = 0
      · simp [hf, reading]
      · rw [dif_neg hf]
        simp only [reading, signed_eq, ← hmantissa, ← hexponent, he]
        rfl
    · rw [if_neg he, if_neg he]
      simp only [reading, signed_eq, ← hexponent]
      rw [toNat_implicit_append, ← hmantissa]
      rfl

/-! ### The shape of a double -/

/-- The significands and exponents of doubles: at most 53 bits, and fewer only where the exponent
cannot be lowered. -/
structure IsDouble (m : Nat) (e : Int) : Prop where
  lt : m < 2 ^ 53
  exponent_le : e ≤ 971
  full_or_lowest : 2 ^ 52 ≤ m ∧ -1074 ≤ e ∨ m < 2 ^ 52 ∧ e = -1074

/-- What a double unpacks to has a significand and an exponent that a double can have. -/
theorem isDouble_of_unpack {x : Float} {s : Sign} {m : Nat} {e : Int} {hp : 0 < m}
    (hunpack : x.toModel.unpack = .finite s m e hp) : IsDouble m e := by
  change UnpackedFloat.unpack Format.binary64 (bitsOf x) = _ at hunpack
  have hexponent : (unpackExponent (bitsOf x)).toNat < 2 ^ 11 := (unpackExponent (bitsOf x)).isLt
  have hmantissa : (unpackMantissa (bitsOf x)).toNat < 2 ^ 52 := (unpackMantissa (bitsOf x)).isLt
  unfold UnpackedFloat.unpack at hunpack
  dsimp only at hunpack
  split at hunpack
  · split at hunpack <;> cases hunpack
  · rename_i hnotall
    split at hunpack
    · rename_i hnone
      split at hunpack
      · cases hunpack
      · obtain ⟨-, rfl, rfl⟩ := UnpackedFloat.finite.inj hunpack
        have he : ((unpackExponent (bitsOf x)).toNat : Int) -
            (Format.binary64.exponentBias + Format.binary64.mantissaBitsWithoutImplicit) + 1 =
              -1074 := by
          rw [hnone]
          rfl
        rw [he]
        exact ⟨by omega, by omega, .inr ⟨hmantissa, rfl⟩⟩
    · -- A normal double: the hidden bit makes the significand full.
      rename_i hnotnone
      obtain ⟨-, rfl, rfl⟩ := UnpackedFloat.finite.inj hunpack
      have hall : (unpackExponent (bitsOf x)).toNat ≠ 2047 := fun h =>
        hnotall (BitVec.toNat_inj.1 h)
      have hnone : (unpackExponent (bitsOf x)).toNat ≠ 0 := fun h =>
        hnotnone (BitVec.toNat_inj.1 h)
      have he : ((unpackExponent (bitsOf x)).toNat : Int) -
          (Format.binary64.exponentBias + Format.binary64.mantissaBitsWithoutImplicit) =
            (unpackExponent (bitsOf x)).toNat - 1075 := rfl
      rw [he, toNat_implicit_append]
      exact ⟨by omega, by omega, .inl ⟨by omega, by omega⟩⟩

/-- A double with a finite value is a zero, or gives its value by significand and exponent. -/
theorem exists_of_exact_eq_finite {x : Float} {q : Rat} (hx : exact x = .finite q) :
    (∃ s, x.toModel.unpack = .zero s ∧ q = 0) ∨
      ∃ s m e hp, x.toModel.unpack = .finite s m e hp ∧ IsDouble m e ∧ q = signed s m e := by
  rw [exact_eq_reading] at hx
  cases hunpack : x.toModel.unpack with
  | notANumber => rw [hunpack] at hx; cases hx
  | infinity s => rw [hunpack] at hx; cases s <;> cases hx
  | zero s =>
    rw [hunpack] at hx
    cases hx
    exact .inl ⟨s, rfl, rfl⟩
  | finite s m e hp =>
    rw [hunpack] at hx
    cases hx
    exact .inr ⟨s, m, e, hp, rfl, isDouble_of_unpack hunpack, rfl⟩

/-! ### Storing -/

/-- Packing keeps the sign. -/
theorem unpackSign_packComponents (s : Sign) (e : BitVec 11) (m : BitVec 52) :
    unpackSign (packComponents Format.binary64 s e m) = s.toBitVec := by
  have hbit : ((s.toBitVec ++ e ++ m).getLsbD 63) = s.toBitVec.getLsbD 0 := by
    rw [BitVec.getLsbD_append, BitVec.getLsbD_append]
    rfl
  apply BitVec.eq_of_getLsbD_eq
  intro i hi
  obtain rfl : i = 0 := by omega
  rw [← hbit]
  unfold unpackSign packComponents
  rw [BitVec.getLsbD_cast, BitVec.getLsbD_extractLsb]
  rfl

/-- A sign survives being stored in a bit. -/
theorem ofBitVec_toBitVec (s : Sign) : Sign.ofBitVec s.toBitVec = s := by
  cases s <;> rfl

/-- A number with a full significand survives being stored, unless its exponent is too large. -/
theorem unpack_pack_finite {s : Sign} {m : Nat} {e : Int} (hp : 0 < m) (hm : 2 ^ 52 ≤ m)
    (hm' : m < 2 ^ 53) (he : -1074 ≤ e) :
    (Float.Model.pack (.finite s m e hp)).unpack =
      if e ≤ 971 then .finite s m e hp else .infinity s := by
  have hlog : m.log2 = 52 := (Nat.log2_eq_iff hp.ne').2 ⟨hm, hm'⟩
  have hbias : e + (Format.binary64.exponentBias : Int) + Format.binary64.mantissaBitsWithoutImplicit =
      e + 1075 := by
    show e + 1023 + 52 = e + 1075
    omega
  show UnpackedFloat.unpack Format.binary64 (UnpackedFloat.pack Format.binary64 _) = _
  unfold UnpackedFloat.pack
  simp only [hlog, hbias]
  -- The biased exponent fits in its field or the number is stored as an infinity.
  by_cases hlarge : e ≤ 971
  · have hfits : ¬ 2 ^ Format.binary64.exponentBits ≤ (e + 1075).toNat + 1 := by
      show ¬ 2048 ≤ (e + 1075).toNat + 1
      omega
    rw [if_neg hfits, if_pos (show 52 + 1 = Format.binary64.mantissaBits from rfl), if_pos hlarge]
    have htoNat : (BitVec.ofNat 11 (e + 1075).toNat).toNat = (e + 1075).toNat := by
      rw [BitVec.toNat_ofNat]
      exact Nat.mod_eq_of_lt (by omega)
    unfold UnpackedFloat.unpack
    simp only [unpackExponent_packComponents, unpackMantissa_packComponents,
      unpackSign_packComponents, ofBitVec_toBitVec]
    rw [if_neg, if_neg]
    · simp only [UnpackedFloat.finite.injEq, true_and, htoNat]
      constructor
      · rw [toNat_implicit_append, BitVec.toNat_ofNat]
        omega
      · show ((e + 1075).toNat : Int) - (1023 + 52) = e
        omega
    · rw [← BitVec.toNat_inj, htoNat]
      show (e + 1075).toNat ≠ 0
      omega
    · rw [← BitVec.toNat_inj, htoNat]
      show (e + 1075).toNat ≠ 2047
      omega
  · have hover : 2 ^ Format.binary64.exponentBits ≤ (e + 1075).toNat + 1 := by
      show 2048 ≤ (e + 1075).toNat + 1
      omega
    rw [if_pos hover, if_neg hlarge]
    cases s <;> rfl

/-- A number below the full significands survives being stored at the smallest exponent. -/
theorem unpack_pack_subnormal {s : Sign} {m : Nat} (hp : 0 < m) (hm : m < 2 ^ 52) :
    (Float.Model.pack (.finite s m (-1074) hp)).unpack = .finite s m (-1074) hp := by
  have hshort : ¬ m.log2 + 1 = Format.binary64.mantissaBits := by
    have hlog : m.log2 < 52 := (Nat.log2_lt hp.ne').2 hm
    show ¬ m.log2 + 1 = 53
    omega
  show UnpackedFloat.unpack Format.binary64 (UnpackedFloat.pack Format.binary64 _) = _
  unfold UnpackedFloat.pack
  dsimp only
  rw [if_neg (by decide), if_neg hshort]
  have htoNat : (BitVec.ofNat 52 m).toNat = m := by
    rw [BitVec.toNat_ofNat]
    exact Nat.mod_eq_of_lt hm
  have hnonzero : BitVec.ofNat 52 m ≠ 0#52 := by
    rw [Ne, ← BitVec.toNat_inj, htoNat]
    exact hp.ne'
  unfold UnpackedFloat.unpack
  simp only [unpackExponent_packComponents, unpackMantissa_packComponents,
    unpackSign_packComponents, ofBitVec_toBitVec]
  rw [if_neg (by decide), if_pos trivial, dif_neg hnonzero]
  simp only [UnpackedFloat.finite.injEq, true_and]
  exact ⟨htoNat, rfl⟩

/-- A number with the significand and exponent of a double survives being stored. -/
theorem unpack_pack_of_isDouble (s : Sign) {m : Nat} {e : Int} (hp : 0 < m) (h : IsDouble m e) :
    (Float.Model.pack (.finite s m e hp)).unpack = .finite s m e hp := by
  rcases h.full_or_lowest with ⟨hfull, hlow⟩ | ⟨hshort, rfl⟩
  · rw [unpack_pack_finite hp hfull h.lt hlow, if_pos h.exponent_le]
  · exact unpack_pack_subnormal hp hshort

/-- What is read back after a number has been stored. -/
def stored (u : UnpackedFloat) : Extended :=
  exact (.ofModel (Float.Model.pack u))

/-- What is stored is read back by unpacking what was packed. -/
theorem stored_eq_reading (u : UnpackedFloat) :
    stored u = reading (Float.Model.pack u).unpack :=
  exact_eq_reading _

/-- A zero of either sign is stored as zero. -/
theorem stored_zero (s : Sign) : stored (.zero s) = .finite 0 := by
  rw [stored_eq_reading]
  cases s <;> rfl

/-- Infinities are stored as they are. -/
theorem stored_infinity (s : Sign) : stored (.infinity s) = reading (.infinity s) := by
  rw [stored_eq_reading]
  cases s <;> rfl

/-- A full significand is stored as it is up to the largest exponent, and as an infinity beyond it.
-/
theorem stored_finite {s : Sign} {m : Nat} {e : Int} (hp : 0 < m) (hm : 2 ^ 52 ≤ m)
    (hm' : m < 2 ^ 53) (he : -1074 ≤ e) :
    stored (.finite s m e hp) =
      if e ≤ 971 then .finite (signed s m e) else reading (.infinity s) := by
  rw [stored_eq_reading, unpack_pack_finite hp hm hm' he]
  split <;> rfl

/-- A number with the significand and exponent of a double is kept. -/
theorem stored_of_isDouble (s : Sign) {m : Nat} {e : Int} (hp : 0 < m) (h : IsDouble m e) :
    stored (.finite s m e hp) = .finite (signed s m e) := by
  rw [stored_eq_reading, unpack_pack_of_isDouble s hp h]
  rfl

/-- A double that is stored again is kept. -/
theorem ofModel_pack_unpack (x : Float) : .ofModel (Float.Model.pack x.toModel.unpack) = x :=
  x.ofBits_toBits

/-- A double that is unpacked and stored again has the value it had. -/
theorem stored_unpack (x : Float) : stored x.toModel.unpack = exact x :=
  congrArg exact (ofModel_pack_unpack x)

end Reticle.Number
