import Reticle.Proofs.FiniteFields

/-!
# Defined values

A field can have an infinite value, as the percentage of a numeral that is too large for a double.
It never has an undefined one: conversion, products and quotients of numbers round to a number or
overflow to an infinity (`stored_ne_undefined`), an infinity stays one when its sign changes or when
it is divided by a hundred, and the other ways of reading a field give finite numbers.
-/

namespace Reticle.Number

open Float.Model Float.Model.UnpackedFloat

/-! ### Storing -/

/-- A number that is stored may overflow, but does not become undefined. -/
theorem stored_ne_undefined {u : UnpackedFloat} (hu : u ≠ .notANumber) :
    stored u ≠ .undefined := by
  cases u with
  | notANumber => exact absurd rfl hu
  | infinity s =>
    rw [stored_infinity]
    cases s <;> simp [reading]
  | zero s =>
    rw [stored_zero]
    simp
  | finite s m e hp =>
    rw [stored_eq_reading]
    show reading (UnpackedFloat.unpack Format.binary64 (UnpackedFloat.pack Format.binary64 _)) ≠ _
    unfold UnpackedFloat.pack
    dsimp only
    split
    · cases s <;> decide +kernel
    · next hfits =>
      -- A nan has all bits of the exponent set, and a finite number is never stored with them.
      have hnumber : ∀ b : BitVec Format.binary64.numBits, unpackExponent b ≠ -1#_ →
          reading (UnpackedFloat.unpack Format.binary64 b) ≠ .undefined := by
        intro b hb
        obtain ⟨q, hq⟩ := exists_reading_unpack hb
        rw [hq]
        simp
      apply hnumber
      split
      · rw [unpackExponent_packComponents, Ne, ← BitVec.toNat_inj, BitVec.toNat_ofNat]
        generalize (e + (Format.binary64.exponentBias : Int) +
          Format.binary64.mantissaBitsWithoutImplicit).toNat = field at hfits ⊢
        have hsmall : field + 1 < 2048 := not_le.1 hfits
        show field % 2048 ≠ 2047
        omega
      · rw [unpackExponent_packComponents]
        decide

/-- A double with a value is not a nan when it is unpacked. -/
theorem unpack_ne_notANumber {x : Float} (hx : exact x ≠ .undefined) :
    x.toModel.unpack ≠ .notANumber := by
  rw [exact_eq_reading] at hx
  intro hunpack
  rw [hunpack] at hx
  exact hx rfl

/-- Rounding never makes a nan. -/
theorem roundWithAccuracy_ne_notANumber (s : Sign) (m : Nat) (e : Int) (accuracy : Accuracy) :
    roundWithAccuracy Format.binary64 s m e accuracy ≠ .notANumber := by
  unfold roundWithAccuracy
  dsimp only
  split <;> simp

/-! ### Arithmetic -/

/-- The negative of a double that is no nan is none either. -/
theorem exact_neg_ne_undefined {x : Float} (hx : exact x ≠ .undefined) :
    exact (-x) ≠ .undefined := by
  have hunpack := unpack_ne_notANumber hx
  show stored x.toModel.unpack.neg ≠ _
  apply stored_ne_undefined
  cases hcase : x.toModel.unpack with
  | notANumber => exact absurd hcase hunpack
  | infinity s => simp [UnpackedFloat.neg]
  | zero s => simp [UnpackedFloat.neg]
  | finite s m e hp => simp [UnpackedFloat.neg]

/-- A product of finite doubles is no nan. -/
theorem exact_mul_ne_undefined {x y : Float} {p q : Rat} (hx : exact x = .finite p)
    (hy : exact y = .finite q) : exact (x * y) ≠ .undefined := by
  show stored (UnpackedFloat.mul Format.binary64 x.toModel.unpack y.toModel.unpack) ≠ _
  apply stored_ne_undefined
  rcases exists_of_exact_eq_finite hx with ⟨s, hunpack, -⟩ | ⟨s, m, e, hp, hunpack, -, -⟩ <;>
    rcases exists_of_exact_eq_finite hy with ⟨t, hunpack', -⟩ | ⟨t, n, f, hp', hunpack', -, -⟩ <;>
    rw [hunpack, hunpack']
  · simp [UnpackedFloat.mul]
  · simp [UnpackedFloat.mul]
  · simp [UnpackedFloat.mul]
  · exact roundWithAccuracy_ne_notANumber (s * t) _ _ _

/-- Dividing by a number other than zero leaves a defined value. -/
theorem exact_div_ne_undefined {x y : Float} {q : Rat} (hx : exact x ≠ .undefined)
    (hy : exact y = .finite q) (hq : q ≠ 0) : exact (x / y) ≠ .undefined := by
  have hunpack := unpack_ne_notANumber hx
  show stored (UnpackedFloat.div Format.binary64 x.toModel.unpack y.toModel.unpack) ≠ _
  apply stored_ne_undefined
  rcases exists_of_exact_eq_finite hy with ⟨-, -, hzero⟩ | ⟨t, n, f, hp, hunpack', -, -⟩
  · exact absurd hzero hq
  rw [hunpack']
  cases hcase : x.toModel.unpack with
  | notANumber => exact absurd hcase hunpack
  | infinity s => simp [UnpackedFloat.div]
  | zero s => simp [UnpackedFloat.div]
  | finite s m e hp' => exact roundWithAccuracy_ne_notANumber (s / t) _ _ _

/-! ### Decimals -/

/-- The powers of ten that are kept as doubles. -/
theorem exact_powerOfTen {k : Nat} (hk : k < Float.exactlyRepresentablePowersOfTen.size) :
    exact Float.exactlyRepresentablePowersOfTen[k] = .finite (10 ^ k) := by
  have hall : ∀ i : Fin 23, exact Float.exactlyRepresentablePowersOfTen[i] =
      .finite (10 ^ (i : Nat)) := by
    decide +kernel
  exact hall ⟨k, hk⟩

/-- Unpacked, a decimal in scientific form is no nan. -/
theorem ofScientific_ne_notANumber (m : Nat) (e : Int) :
    UnpackedFloat.ofScientific Format.binary64 m e ≠ .notANumber := by
  unfold UnpackedFloat.ofScientific
  split
  · simp
  split
  · simp
  split
  · simp
  split <;> exact roundWithAccuracy_ne_notANumber _ _ _ _

/-- As a double, too, a decimal in scientific form is no nan. -/
theorem exact_ofScientific_ne_undefined (m : Nat) (negative : Bool) (k : Nat) :
    exact (.ofScientific m negative k) ≠ .undefined := by
  unfold Float.ofScientific
  split
  · next hfast =>
    have hm := exact_toFloat hfast.1
    dsimp only
    -- Short decimals are the product or quotient of two doubles.
    have hpower := exact_powerOfTen (Nat.lt_succ_of_le hfast.2)
    split
    · exact exact_div_ne_undefined (by rw [hm]; simp) hpower (by positivity)
    · exact exact_mul_ne_undefined hm hpower
  · exact stored_ne_undefined (ofScientific_ne_notANumber m _)

/-- No decimal is read as a nan, however large its exponent. -/
theorem Decimal.exact_toFloat_ne_undefined (d : Decimal) : exact d.toFloat ≠ .undefined := by
  unfold toFloat
  dsimp only
  split
  · decide +kernel
  · split
    · decide +kernel
    · exact exact_ofScientific_ne_undefined _ _ _

end Reticle.Number

namespace Reticle.Formula

open Number

/-! ## Fields -/

/-- No number in a coordinate list is read as a nan. -/
theorem SignedNumeral.exact_value_ne_undefined (n : SignedNumeral) :
    exact n.value ≠ .undefined := by
  have hnumeral : exact n.numeral.value ≠ .undefined := Decimal.exact_toFloat_ne_undefined _
  unfold value
  split
  · exact exact_neg_ne_undefined hnumeral
  · exact hnumeral

/-- The value of a field is a number or an infinity. -/
theorem exact_numberFrom_ne_undefined {raw : String} {sliders : Sliders} {x : Float}
    (h : (numberFrom raw sliders).1 = some x) : exact x ≠ .undefined := by
  cases hpercentage : readPercentage (Text.trim raw.toList) with
  | some y =>
    obtain ⟨-, hnumber⟩ := value_of_percentage hpercentage sliders
    obtain ⟨n, -, rfl⟩ := readPercentage_eq_some_iff.1 hpercentage
    obtain rfl := Option.some.inj (h.symm.trans hnumber)
    have hhundred : exact 100 = .finite 100 := by decide +kernel
    exact exact_div_ne_undefined n.exact_value_ne_undefined hhundred (by norm_num)
  | none =>
    have hshort := not_overlong_of_no_percentage hpercentage
    have hfinite := (field_isFinite_iff raw sliders).2.2 hshort
    rw [h] at hfinite
    obtain ⟨q, hq⟩ := isFinite_iff.1 hfinite
    rw [hq]
    simp

end Reticle.Formula
