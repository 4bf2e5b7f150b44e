import Reticle.Proofs.Rounding

/-!
# Doubles with equal values

Only the zeros have two doubles. Doubles with any other value are the same (`eq_of_exact_eq`), so
comparing doubles is comparing values (`beq_iff`), and arithmetic cannot tell doubles of one value
apart (`exact_add_congr`). Sums do not depend on the order, a difference is the sum with the
negative, and adding a zero or multiplying by a unit rounds nothing.
-/

namespace Reticle.Number

open Float.Model Float.Model.UnpackedFloat

/-! ### One double for one value -/

/-- Of two ways to write a magnitude the one with the greater exponent has the shorter
significand. -/
theorem exponent_le_of_eq {m n : Nat} {e f : Int} (hm : IsDouble m e) (hn : IsDouble n f)
    (h : (m : Rat) * 2 ^ e = n * 2 ^ f) : f ≤ e := by
  by_contra hlt
  obtain ⟨k, hk⟩ : ∃ k : Nat, f = e + (k + 1 : Nat) := ⟨(f - e - 1).toNat, by omega⟩
  have hlow : -1074 ≤ e := by
    rcases hm.full_or_lowest with ⟨-, he⟩ | ⟨-, he⟩
    · exact he
    · exact he.ge
  have hfull : 2 ^ 52 ≤ n := by
    rcases hn.full_or_lowest with ⟨hfull, -⟩ | ⟨-, hf⟩
    · exact hfull
    · omega
  have hsignificand : m = n * 2 ^ (k + 1) := by
    rw [hk, zpow_add₀ (by norm_num), mul_comm ((2 : Rat) ^ e), ← mul_assoc, zpow_natCast] at h
    exact_mod_cast mul_right_cancel₀ (by positivity) h
  have htwo : 2 ≤ 2 ^ (k + 1) := by
    rw [Nat.pow_succ]
    exact Nat.le_mul_of_pos_left 2 (by positivity)
  have hlong : 2 ^ 52 * 2 ≤ m := hsignificand ▸ Nat.mul_le_mul hfull htwo
  have hshort := hm.lt
  omega

/-- A value determines the sign, the significand and the exponent. -/
theorem signed_inj {s t : Sign} {m n : Nat} {e f : Int} (hpos : 0 < m) (hm : IsDouble m e)
    (hn : IsDouble n f) (h : signed s m e = signed t n f) : s = t ∧ m = n ∧ e = f := by
  have hmagnitude : (m : Rat) * 2 ^ e = n * 2 ^ f := by
    rw [← abs_signed s, ← abs_signed t, h]
  obtain rfl : e = f :=
    le_antisymm (exponent_le_of_eq hn hm hmagnitude.symm) (exponent_le_of_eq hm hn hmagnitude)
  obtain rfl : m = n := by
    exact_mod_cast mul_right_cancel₀ (by positivity) hmagnitude
  refine ⟨?_, rfl, rfl⟩
  rw [signed_eq, signed_eq] at h
  have hsign := mul_right_cancel₀ (by positivity) h
  cases s <;> cases t <;> first | rfl | norm_num [Sign.apply] at hsign

variable {x y : Float} {p q : Rat}

/-- A double that is not zero unpacks to a significand and an exponent that make up its value. -/
theorem exists_unpack_of_ne_zero (hq : q ≠ 0) (hx : exact x = .finite q) :
    ∃ s m e hp, x.toModel.unpack = .finite s m e hp ∧ IsDouble m e ∧ q = signed s m e :=
  (exists_of_exact_eq_finite hx).resolve_left fun ⟨_, _, hzero⟩ => hq hzero

/-- A double of value zero unpacks to a zero, of one sign or the other. -/
theorem exists_unpack_of_zero (hx : exact x = .finite 0) : ∃ s, x.toModel.unpack = .zero s := by
  rcases exists_of_exact_eq_finite hx with ⟨s, hunpack, -⟩ | ⟨s, m, e, hp, -, -, hzero⟩
  · exact ⟨s, hunpack⟩
  · exact absurd hzero.symm (signed_ne_zero s hp e)

/-- Doubles of the same value are equal, unless they are zeros. -/
theorem eq_of_exact_eq (hq : q ≠ 0) (hx : exact x = .finite q) (hy : exact y = .finite q) :
    x = y := by
  obtain ⟨s, m, e, hp, hunpack, hm, hvalue⟩ := exists_unpack_of_ne_zero hq hx
  obtain ⟨t, n, f, hp', hunpack', hn, hvalue'⟩ := exists_unpack_of_ne_zero hq hy
  obtain ⟨rfl, rfl, rfl⟩ := signed_inj hp hm hn (hvalue.symm.trans hvalue')
  rw [← ofModel_pack_unpack x, ← ofModel_pack_unpack y, hunpack, hunpack']

/-- A reading that is not a number determines what is unpacked. -/
theorem eq_of_reading_eq {a b : UnpackedFloat} (h : reading a = reading b)
    (hinfinite : ∀ q, reading a ≠ .finite q) : a = b := by
  cases a with
  | zero s | finite s m e hm => exact absurd rfl (hinfinite _)
  | notANumber =>
    cases b with
    | notANumber => rfl
    | infinity t => cases t <;> cases h
    | zero t | finite t n f hn => cases h
  | infinity s =>
    cases b with
    | notANumber => cases s <;> cases h
    | infinity t => cases s <;> cases t <;> first | rfl | cases h
    | zero t | finite t n f hn => cases s <;> cases h

/-- Doubles with one reading are the same, or they are both zero. -/
theorem eq_or_zero_of_exact_eq (h : exact x = exact y) : x = y ∨ exact x = .finite 0 := by
  by_cases hfinite : ∃ q, exact x = .finite q
  · obtain ⟨q, hx⟩ := hfinite
    by_cases hq : q = 0
    · exact .inr (hq ▸ hx)
    · exact .inl (eq_of_exact_eq hq hx (h ▸ hx))
  · rw [not_exists, exact_eq_reading] at hfinite
    rw [exact_eq_reading, exact_eq_reading] at h
    refine .inl ?_
    rw [← ofModel_pack_unpack x, ← ofModel_pack_unpack y, eq_of_reading_eq h hfinite]

/-- Comparing doubles is comparing values. -/
theorem beq_iff (hx : exact x = .finite p) (hy : exact y = .finite q) :
    (x == y) = true ↔ p = q := by
  have hzero : exact 0 = .finite 0 := by decide +kernel
  have hnegative : exact (-0) = .finite 0 := by decide +kernel
  have hnan : exact Float.nan = .undefined := by decide +kernel
  constructor
  · intro h
    have hsame : exact x = exact y := by
      obtain ⟨-, -, rfl | ⟨rfl, rfl⟩ | ⟨rfl, rfl⟩⟩ := Float.beq_iff_ne_nan_and_eq.1 h
      · rfl
      · rw [hzero, hnegative]
      · rw [hzero, hnegative]
    rw [hx, hy] at hsame
    exact Extended.finite.inj hsame
  · rintro rfl
    by_cases hp : p = 0
    · subst hp
      obtain ⟨s, hunpack⟩ := exists_unpack_of_zero hx
      obtain ⟨t, hunpack'⟩ := exists_unpack_of_zero hy
      show UnpackedFloat.beq x.toModel.unpack y.toModel.unpack = true
      rw [hunpack, hunpack']
      rfl
    · obtain rfl := eq_of_exact_eq hp hx hy
      rw [Float.beq_self_iff]
      rintro rfl
      rw [hnan] at hx
      cases hx

/-! ### Sums -/

/-- Addition of unpacked doubles is commutative. -/
theorem add_comm_unpacked (a b : UnpackedFloat) :
    UnpackedFloat.add Format.binary64 a b = UnpackedFloat.add Format.binary64 b a := by
  cases a with
  | notANumber => cases b <;> rfl
  | infinity s =>
    cases b with
    | infinity t => cases s <;> cases t <;> rfl
    | notANumber | zero t | finite t n f hn => rfl
  | zero s =>
    cases b with
    | zero t => cases s <;> cases t <;> rfl
    | notANumber | infinity t | finite t n f hn => rfl
  | finite s m e hm =>
    cases b with
    | finite t n f hn =>
      unfold UnpackedFloat.add
      dsimp only
      rw [min_comm, add_comm]
    | notANumber | infinity t | zero t => rfl

/-- Addition of doubles is commutative. -/
theorem float_add_comm (x y : Float) : x + y = y + x :=
  congrArg (fun u => Float.ofModel (Float.Model.pack u))
    (add_comm_unpacked x.toModel.unpack y.toModel.unpack)

/-- Adding a zero changes no value. -/
theorem exact_add_zero (x : Float) (hy : exact y = .finite 0) : exact (x + y) = exact x := by
  obtain ⟨t, hunpack⟩ := exists_unpack_of_zero hy
  show stored (UnpackedFloat.add Format.binary64 x.toModel.unpack y.toModel.unpack) = _
  rw [← stored_unpack x, hunpack]
  cases x.toModel.unpack with
  | zero s => cases s <;> cases t <;> exact (stored_zero _).trans (stored_zero _).symm
  | notANumber | infinity s | finite s m e hm => rfl

/-- A sum depends on the value of its summand only, not on the sign of a zero. -/
theorem exact_add_congr_right {y y' : Float} (x : Float) (h : exact y = exact y') :
    exact (x + y) = exact (x + y') := by
  rcases eq_or_zero_of_exact_eq h with rfl | hzero
  · rfl
  · rw [exact_add_zero x hzero, exact_add_zero x (h ▸ hzero)]

/-- The value of a sum depends on the values of its terms only. -/
theorem exact_add_congr {x' y' : Float} (hx : exact x = exact x') (hy : exact y = exact y') :
    exact (x + y) = exact (x' + y') := by
  rw [exact_add_congr_right x hy, float_add_comm x, float_add_comm x']
  exact exact_add_congr_right y' hx

/-! ### Differences -/

/-- Negating a double negates what it unpacks to. -/
theorem unpack_neg (x : Float) : (-x).toModel.unpack = x.toModel.unpack.neg := by
  show (Float.Model.pack x.toModel.unpack.neg).unpack = _
  cases hunpack : x.toModel.unpack with
  | notANumber => rfl
  | infinity s | zero s => cases s <;> rfl
  | finite s m e hp => exact unpack_pack_of_isDouble (-s) hp (isDouble_of_unpack hunpack)

/-- A difference of unpacked doubles is the sum with the negative. -/
theorem sub_eq_add_neg_unpacked (a b : UnpackedFloat) :
    UnpackedFloat.sub Format.binary64 a b = UnpackedFloat.add Format.binary64 a b.neg := by
  cases a with
  | notANumber => cases b <;> rfl
  | infinity s =>
    cases b with
    | infinity t => cases s <;> cases t <;> rfl
    | notANumber | zero t | finite t n f hn => rfl
  | zero s =>
    cases b with
    | zero t => cases s <;> cases t <;> rfl
    | notANumber | infinity t | finite t n f hn => rfl
  | finite s m e hm =>
    cases b with
    | finite t n f hn =>
      have hsign : ∀ k : Int, (-t).apply k = -t.apply k := by
        intro k
        cases t
        · exact (neg_neg k).symm
        · rfl
      unfold UnpackedFloat.sub UnpackedFloat.add UnpackedFloat.neg
      dsimp only
      rw [hsign, ← sub_eq_add_neg]
    | notANumber | infinity t | zero t => rfl

/-- A difference is the sum with the negative. -/
theorem float_sub_eq_add_neg (x y : Float) : x - y = x + -y := by
  show Float.ofModel (Float.Model.pack _) = Float.ofModel (Float.Model.pack _)
  rw [sub_eq_add_neg_unpacked, unpack_neg]

/-- A difference of doubles is the difference of their values, rounded once. -/
theorem rounds_sub (hx : exact x = .finite p) (hy : exact y = .finite q) :
    Rounds (p - q) (exact (x - y)) := by
  rw [float_sub_eq_add_neg, sub_eq_add_neg]
  exact rounds_add hx (exact_neg hy)

/-! ### Products with units -/

/-- A double that has been written with zeros at the end of its significand is rounded to
itself. -/
theorem roundWithAccuracy_of_isDouble (s : Sign) {m : Nat} {e : Int} (hp : 0 < m)
    (h : IsDouble m e) (k : Nat) :
    roundWithAccuracy Format.binary64 s (m * 2 ^ k) (e - k) .exact = .finite s m e hp := by
  have hlog : m.log2 < 53 := (Nat.log2_lt hp.ne').2 h.lt
  have htarget : ∀ {n : Nat} {f : Int}, (n.log2 : Int) + f = m.log2 + e →
      Format.binary64.targetExponent (totalExponent n f) = e := by
    intro n f hf
    show max ((n.log2 : Int) + 1 + f - 53) (-1074) = e
    rcases h.full_or_lowest with ⟨hfull, hlow⟩ | ⟨-, rfl⟩
    · have hle := (Nat.le_log2 hp.ne').2 hfull
      omega
    · omega
  have hshift : ∀ j : Nat, shiftToTargetExponent Format.binary64 (m * 2 ^ j) (e - j) .exact =
      (⟨m, false, false⟩, e) := by
    intro j
    have hlength : (m * 2 ^ j).log2 = m.log2 + j := by
      rw [← Nat.shiftLeft_eq, log2_shiftLeft hp]
    unfold shiftToTargetExponent shiftToExponent
    dsimp only
    rw [htarget (by omega), show (e - (e - (j : Int))).toNat = j by omega]
    show ((⟨m * 2 ^ j, false, false⟩ : ExtendedMantissa) >>> j, e - j + j) = _
    rw [shiftRight_of_dvd (Nat.dvd_mul_left _ _), Nat.mul_div_cancel _ (by positivity),
      sub_add_cancel]
  -- Rounding shifts twice; the second time there is nothing left to shift.
  have hsecond := hshift 0
  rw [pow_zero, mul_one, Nat.cast_zero, sub_zero] at hsecond
  have hrounded : (⟨m, false, false⟩ : ExtendedMantissa).roundedMantissa = m := rfl
  unfold roundWithAccuracy
  simp only [hshift k, hrounded, hsecond]
  rw [dif_neg hp.ne']

/-- A product with a unit is not rounded. -/
theorem exact_unit_mul {u : Rat} (hu : u = 1 ∨ u = -1) (hx : exact x = .finite u)
    (hy : exact y = .finite q) : exact (x * y) = .finite (u * q) := by
  obtain ⟨s, hs⟩ : ∃ s : Sign, u = s.apply 1 := by
    rcases hu with rfl | rfl
    · exact ⟨.positive, by simp [Sign.apply]⟩
    · exact ⟨.negative, by simp [Sign.apply]⟩
  have hunit : IsDouble (2 ^ 52) (-52) := ⟨by norm_num, by norm_num, .inl ⟨le_rfl, by norm_num⟩⟩
  have hvalue : u = signed s (2 ^ 52) (-52) := by
    rw [signed_eq, hs]
    norm_num
  have hnonzero : u ≠ 0 := by
    rcases hu with rfl | rfl <;> norm_num
  obtain ⟨s', m, e, hp, hunpack, hm, hvalue'⟩ := exists_unpack_of_ne_zero hnonzero hx
  obtain ⟨rfl, rfl, rfl⟩ := signed_inj hp hm hunit (hvalue'.symm.trans hvalue)
  show stored (UnpackedFloat.mul Format.binary64 x.toModel.unpack y.toModel.unpack) = _
  rcases exists_of_exact_eq_finite hy with ⟨t, hunpack', rfl⟩ | ⟨t, n, f, hp', hunpack', hn, rfl⟩
  · rw [hunpack, hunpack', mul_zero]
    exact stored_zero _
  · have hproduct : u * signed t n f = signed (s' * t) n f := by
      rw [hs, signed_eq, signed_eq]
      cases s' <;> cases t <;> simp [Sign.apply]
    -- The unit has its significand shifted to full length, and rounding takes that shift back.
    have hround := roundWithAccuracy_of_isDouble (s' * t) hp' hn 52
    rw [hunpack, hunpack', hproduct, ← stored_of_isDouble (s' * t) hp' hn, ← hround]
    show stored (roundWithAccuracy Format.binary64 (s' * t) (2 ^ 52 * n) (-52 + f) .exact) = _
    rw [mul_comm, neg_add_eq_sub]
    rfl

end Reticle.Number
