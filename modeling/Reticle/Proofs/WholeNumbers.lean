import Reticle.Proofs.EqualDoubles

/-!
# Whole numbers as doubles

Cells are counted in whole numbers, and offsets are added to them as doubles. Whole numbers below
`2 ^ 52` are kept by all of that arithmetic; larger ones may be rounded, and sums of them may
overflow, but they stay far away from the grid. `Stands` says that a double is one or the other, and
`round_eq_iff` that either way the double is rounded to a coordinate of the grid only if it stands
for that coordinate.
-/

namespace Reticle.Number

open Float.Model Float.Model.UnpackedFloat

/-! ### Results that are kept -/

/-- Half of a whole number of up to 53 binary digits is a normal double. -/
theorem isNormal_half {n : Int} (hn : n ≠ 0) (hlt : |n| < 2 ^ 53) : IsNormal ((n : Rat) / 2) := by
  have habs : |((n : Rat) / 2)| = (n.natAbs : Rat) / 2 := by
    rw [abs_div, abs_two, ← Int.cast_abs, Int.abs_eq_natAbs]
    rfl
  have hone : (1 : Rat) ≤ n.natAbs := by
    exact_mod_cast Int.natAbs_pos.2 hn
  refine ⟨?_, n.natAbs, -1, ?_, by norm_num, ?_⟩
  · have hsmall : (2 : Rat) ^ (-1022 : Int) ≤ 2 ^ (-1 : Int) :=
      zpow_le_zpow_right₀ (by norm_num) (by norm_num)
    rw [habs]
    refine hsmall.trans ?_
    rw [zpow_neg_one]
    linarith
  · rw [Int.abs_eq_natAbs] at hlt
    exact_mod_cast hlt
  · rw [habs, zpow_neg_one, div_eq_mul_inv]

/-- A whole number of at most 53 binary digits is zero or the value of a double. -/
theorem isNormal_of_abs_lt {n : Int} (hlt : |n| < 2 ^ 53) : (n : Rat) = 0 ∨ IsNormal n := by
  by_cases hn : n = 0
  · exact .inl (by rw [hn, Int.cast_zero])
  · obtain ⟨hsmall, -⟩ := isNormal_half hn hlt
    have habs : |(n : Rat)| = n.natAbs := by
      rw [← Int.cast_abs, Int.abs_eq_natAbs]
      rfl
    refine .inr ⟨hsmall.trans ?_, n.natAbs, 0, ?_, by norm_num, ?_⟩
    · rw [abs_div, abs_two]
      exact half_le_self (abs_nonneg _)
    · rw [Int.abs_eq_natAbs] at hlt
      exact_mod_cast hlt
    · rw [habs, zpow_zero, mul_one]

/-! ### Converted whole numbers -/

/-- A whole number of a machine word, converted. -/
theorem exact_toFloat {n : Nat} (hn : n < 2 ^ 53) : exact n.toUInt64.toFloat = .finite (n : Int) := by
  have hnormal := isNormal_of_abs_lt (n := n) (by rw [Nat.abs_cast]; exact_mod_cast hn)
  have hword : (n.toUInt64).toNat = n := by
    rw [Nat.toUInt64_eq, UInt64.toNat_ofNat']
    exact Nat.mod_eq_of_lt (by omega)
  have hrounds : Rounds ((n.toUInt64.toNat : Int) * (2 : Rat) ^ (0 : Int))
      (exact n.toUInt64.toFloat) := rounds_normalize n.toUInt64.toNat 0 .positive
  rw [hword, zpow_zero, mul_one] at hrounds
  exact hrounds.eq_finite hnormal

/-- Natural numbers of up to 53 binary digits are not rounded. -/
theorem exact_ofNat {n : Nat} (hn : n < 2 ^ 53) : exact (Float.ofNat n) = .finite (n : Int) := by
  have hnormal := isNormal_of_abs_lt (n := n) (by rw [Nat.abs_cast]; exact_mod_cast hn)
  have hone : exact (Float.ofBits 0x3FF0000000000000) = .finite 1 := by decide +kernel
  -- A whole number is converted as a decimal, so it is multiplied by the zeroth power of ten.
  have hproduct : Float.ofNat n = n.toUInt64.toFloat * Float.ofBits 0x3FF0000000000000 := by
    show Float.ofScientific n false 0 = _
    unfold Float.ofScientific
    rw [dif_pos ⟨by omega, by omega⟩]
    rfl
  have hrounds := rounds_mul (exact_toFloat hn) hone
  rw [mul_one] at hrounds
  rw [hproduct]
  exact hrounds.eq_finite hnormal

/-- The absolute value of a negative number, as it is stored. -/
theorem abs_negSucc (n : Nat) : |Int.negSucc n| = ((n + 1 : Nat) : Int) := by
  rw [Int.negSucc_eq, abs_neg]
  exact Nat.abs_cast (n + 1)

/-- Whole numbers of up to 53 binary digits are not rounded. -/
theorem exact_ofInt {n : Int} (hn : |n| < 2 ^ 53) : exact (Float.ofInt n) = .finite n := by
  cases n with
  | ofNat n => exact exact_ofNat (by simpa using hn)
  | negSucc n =>
    rw [Int.negSucc_eq, Int.cast_neg]
    exact exact_neg (exact_ofNat (by rw [abs_negSucc] at hn; exact_mod_cast hn))

/-- A unit or zero times a double. -/
theorem exact_ofInt_mul {a : Int} {x : Float} {q : Rat} (ha : a = -1 ∨ a = 0 ∨ a = 1)
    (hx : exact x = .finite q) : exact (Float.ofInt a * x) = .finite (a * q) := by
  have hsmall : exact (Float.ofInt a) = .finite a :=
    exact_ofInt (by rcases ha with rfl | rfl | rfl <;> decide)
  rcases ha with rfl | rfl | rfl
  · exact exact_unit_mul (.inr (by norm_num)) hsmall hx
  · exact (rounds_mul hsmall hx).eq_finite (.inl (by rw [Int.cast_zero, zero_mul]))
  · exact exact_unit_mul (.inl (by norm_num)) hsmall hx

/-! ### Doubles that stand for whole numbers -/

/-- A double that is a whole number, or is as far away from zero as that number. -/
def Stands (N : Nat) (x : Float) (n : Int) : Prop :=
  exact x = .finite n ∨ 2 ^ N ≤ |n| ∧ (exact x).IsFar (2 ^ N)

/-- What rounds a whole number stands for it. -/
theorem Stands.of_rounds {N : Nat} {x : Float} {n : Int} (hN : N ≤ 52)
    (hrounds : Rounds n (exact x)) : Stands N x n := by
  by_cases hlt : |n| < 2 ^ 52
  · exact .inl (hrounds.eq_finite (isNormal_of_abs_lt (hlt.trans (by norm_num))))
  · have hfar : (2 : Int) ^ N ≤ |n| :=
      (pow_le_pow_right₀ (by norm_num) hN).trans (not_lt.1 hlt)
    refine .inr ⟨hfar, hrounds.isFar N ?_⟩
    exact_mod_cast hfar

/-- What is twice as far away as another number is large stays away when the number is added. -/
theorem le_abs_add {R : Type} [CommRing R] [LinearOrder R] [IsStrictOrderedRing R] {a b q : R}
    (ha : |a| ≤ b) (hq : b + b ≤ |q|) : b ≤ |a + q| := by
  have htriangle := abs_sub_abs_le_abs_sub q (-a)
  rw [abs_neg, sub_neg_eq_add, add_comm q a] at htriangle
  linarith

/-- A double of infinite value unpacks to an infinity. -/
theorem exists_unpack_of_infinite {x : Float} (hx : exact x = .bottom ∨ exact x = .top) :
    ∃ s, x.toModel.unpack = .infinity s := by
  rw [exact_eq_reading] at hx
  cases hunpack : x.toModel.unpack with
  | infinity s => exact ⟨s, rfl⟩
  | notANumber => rw [hunpack] at hx; rcases hx with h | h <;> cases h
  | zero s => rw [hunpack] at hx; rcases hx with h | h <;> cases h
  | finite s m e hp => rw [hunpack] at hx; rcases hx with h | h <;> cases h

/-- An infinity stays one when a number is added. -/
theorem exact_add_of_infinite {x y : Float} {p : Rat} (hx : exact x = .finite p)
    (hy : exact y = .bottom ∨ exact y = .top) : exact (x + y) = exact y := by
  obtain ⟨s, hs⟩ := exists_unpack_of_infinite hy
  rw [exact_eq_reading y, hs]
  show stored (UnpackedFloat.add Format.binary64 x.toModel.unpack y.toModel.unpack) = _
  rw [hs, ← stored_infinity]
  rcases exists_of_exact_eq_finite hx with ⟨t, hunpack, -⟩ | ⟨t, m, e, hp, hunpack, -, -⟩ <;>
    (rw [hunpack]; rfl)

/-- The three ways to stand for a whole number: to be the number, or to be far away like it, as a
number or as an infinity. -/
theorem Stands.cases {N : Nat} {x : Float} {n : Int} (h : Stands N x n) :
    exact x = .finite n ∨ 2 ^ N ≤ |n| ∧
      ((∃ q, exact x = .finite q ∧ 2 ^ N ≤ |q|) ∨ exact x = .bottom ∨ exact x = .top) := by
  rcases h with h | ⟨hn, hx⟩
  · exact .inl h
  · refine .inr ⟨hn, ?_⟩
    cases hexact : exact x with
    | undefined => rw [hexact] at hx; exact hx.elim
    | bottom => exact .inr (.inl rfl)
    | finite q => rw [hexact] at hx; exact .inl ⟨q, rfl, hx⟩
    | top => exact .inr (.inr rfl)

/-- A sum stands for the sum, also where one summand stands for a number far away. -/
theorem Stands.add {N : Nat} {x y : Float} {a n : Int} (hN : N ≤ 52) (hx : exact x = .finite a)
    (ha : |a| ≤ 2 ^ N) (hy : Stands (N + 1) y n) : Stands N (x + y) (a + n) := by
  rcases hy.cases with hy | ⟨hn, hy⟩
  · refine .of_rounds hN ?_
    rw [Int.cast_add]
    exact rounds_add hx hy
  · refine .inr ⟨le_abs_add ha (by rwa [pow_succ, mul_two] at hn), ?_⟩
    rcases hy with ⟨q, hy, hq⟩ | hy
    · refine (rounds_add hx hy).isFar N (le_abs_add ?_ (by rwa [pow_succ, mul_two] at hq))
      exact_mod_cast ha
    · rw [exact_add_of_infinite hx hy]
      rcases hy with h | h <;> (rw [h]; exact trivial)

/-! ### Values -/

/-- A double is finite when it has a rational value. -/
theorem isFinite_iff {x : Float} : x.isFinite = true ↔ ∃ q, exact x = .finite q := by
  rw [exact_eq_reading]
  show x.toModel.unpack.isFinite = true ↔ _
  cases x.toModel.unpack with
  | notANumber => simp [UnpackedFloat.isFinite, reading]
  | infinity s => cases s <;> simp [UnpackedFloat.isFinite, reading]
  | zero s => simp [UnpackedFloat.isFinite, reading]
  | finite s m e hp => simp [UnpackedFloat.isFinite, reading]

/-- The value of a finite double. -/
def value (x : Float) : Rat :=
  match exact x with
  | .finite q => q
  | _ => 0

/-- A finite double stands for its value. -/
theorem exact_eq_value {x : Float} (h : x.isFinite = true) : exact x = .finite (value x) := by
  obtain ⟨q, hq⟩ := isFinite_iff.1 h
  unfold value
  rw [hq]

/-- The value of a double is what it stands for. -/
theorem value_eq {x : Float} {q : Rat} (h : exact x = .finite q) : value x = q := by
  unfold value
  rw [h]

/-- Finite doubles compare as their values do. -/
theorem isBelow_iff_value_lt {x y : Float} (hx : x.isFinite = true) (hy : y.isFinite = true) :
    (exact x).isBelow (exact y) = true ↔ value x < value y := by
  rw [exact_eq_value hx, exact_eq_value hy]
  exact decide_eq_true_iff

/-! ### Rounding to coordinates -/

/-- Clamping to coordinates changes no number between zero and the greatest coordinate. -/
theorem clampCoordinate_eq_iff {n k : Int} (hk : 0 ≤ k) (hk' : k < 0x7FFFFFFF) :
    Extended.clampCoordinate n = k ↔ n = k := by
  simp only [Extended.clampCoordinate, Extended.coordinateMin, Extended.coordinateMax]
  omega

/-- What is far away is at no coordinate of a grid. -/
theorem Extended.IsFar.floor_ne {x : Extended} {k : Int} (hx : x.IsFar (2 ^ 50)) (hk : 0 ≤ k)
    (hk' : k < 0x7FFFFFFF) : x.floor ≠ k := by
  cases x with
  | undefined => exact hx.elim
  | bottom => show (-0x80000000 : Int) ≠ k; omega
  | top => show (0x7FFFFFFF : Int) ≠ k; omega
  | finite q =>
    show Extended.clampCoordinate q.floor ≠ k
    rw [Ne, clampCoordinate_eq_iff hk hk']
    rintro rfl
    have hle : ((q.floor : Int) : Rat) ≤ q := Rat.floor_le q
    have hlt : q < (q.floor + 1 : Int) := Rat.lt_floor_add_one q
    have hnonneg : (0 : Rat) ≤ q := le_trans (by exact_mod_cast hk) hle
    have hbound : ((q.floor + 1 : Int) : Rat) ≤ 2 ^ 31 := by
      have : q.floor + 1 ≤ 2 ^ 31 := by omega
      exact_mod_cast this
    change 2 ^ 50 ≤ |q| at hx
    rw [abs_of_nonneg hnonneg] at hx
    linarith

/-- One half is not rounded. -/
theorem exact_half : exact 0.5 = .finite (1 / 2) := by
  decide +kernel

/-- Rounding half up leaves whole numbers alone. -/
theorem floor_add_half (n : Int) : ((n : Rat) + 1 / 2).floor = n := by
  have hle := Rat.floor_le ((n : Rat) + 1 / 2)
  have hlt := Rat.lt_floor_add_one ((n : Rat) + 1 / 2)
  have hbelow : ((n : Rat) + 1 / 2).floor < n + 1 := by
    rw [← Int.cast_lt (R := Rat), Int.cast_add, Int.cast_one]
    linarith
  have habove : n < ((n : Rat) + 1 / 2).floor + 1 := by
    rw [← Int.cast_lt (R := Rat)]
    linarith
  omega

/-- A whole number to which a half can be added exactly is rounded to itself. -/
theorem round_of_abs_lt {x : Float} {n : Int} (hx : exact x = .finite n) (hn : |n| < 2 ^ 51) :
    round x = Extended.clampCoordinate n := by
  have hsum : exact (x + 0.5) = .finite (n + 1 / 2) := by
    refine (rounds_add hx exact_half).eq_finite (.inr ?_)
    have hnormal : IsNormal (((2 * n + 1 : Int) : Rat) / 2) := by
      refine isNormal_half (by omega) ?_
      have htriangle := abs_add_le (2 * n) 1
      rw [abs_mul, abs_two, abs_one] at htriangle
      omega
    convert hnormal using 1
    push_cast
    ring
  show (exact (x + 0.5)).floor = _
  rw [hsum]
  show Extended.clampCoordinate ((n : Rat) + 1 / 2).floor = _
  rw [floor_add_half]

/-- A double that is far away is rounded to no coordinate of a grid. -/
theorem round_ne_of_le_abs {x : Float} {q : Rat} {k : Int} (hx : exact x = .finite q)
    (hq : 2 ^ 51 ≤ |q|) (hk : 0 ≤ k) (hk' : k < 0x7FFFFFFF) : round x ≠ k := by
  refine ((rounds_add hx exact_half).isFar 50 ?_).floor_ne hk hk'
  rw [add_comm]
  refine le_abs_add ?_ (by rwa [pow_succ, mul_two] at hq)
  rw [abs_of_pos (by norm_num)]
  norm_num

/-- A double that stands for a whole number is rounded to a coordinate of a grid exactly if that is
the number. -/
theorem round_eq_iff {x : Float} {n k : Int} (h : Stands 51 x n) (hk : 0 ≤ k)
    (hk' : k < 0x7FFFFFFF) : (x.isFinite = true ∧ round x = k) ↔ n = k := by
  have hne : 2 ^ 51 ≤ |n| → n ≠ k := by
    rintro hn rfl
    rw [abs_of_nonneg hk] at hn
    omega
  rcases h.cases with hx | ⟨hn, ⟨q, hx, hq⟩ | hx⟩
  · by_cases hn : |n| < 2 ^ 51
    · rw [round_of_abs_lt hx hn, clampCoordinate_eq_iff hk hk']
      exact and_iff_right (isFinite_iff.2 ⟨n, hx⟩)
    · have hfar : (2 : Rat) ^ 51 ≤ |(n : Rat)| := by exact_mod_cast not_lt.1 hn
      exact iff_of_false (fun h => round_ne_of_le_abs hx hfar hk hk' h.2) (hne (not_lt.1 hn))
  · exact iff_of_false (fun h => round_ne_of_le_abs hx hq hk hk' h.2) (hne hn)
  · refine iff_of_false (fun h => ?_) (hne hn)
    obtain ⟨q, hq⟩ := isFinite_iff.1 h.1
    rw [hq] at hx
    rcases hx with hx | hx <;> cases hx

end Reticle.Number
