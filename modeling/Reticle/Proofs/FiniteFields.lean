import Reticle.Proofs.FiniteNumbers
import Reticle.Proofs.Reading
import Reticle.Proofs.SignedNumerals

/-!
# Finite fields

A field has a value in one of four ways: as a percentage, as a plain number, as a formula, or by the
first whole number in it. Plain numbers and formulas count only if they are finite, and converted
whole numbers of 64 bits always are. A percentage is not checked: it is finite exactly if its
numeral is. So the values of fields are finite but for the percentages of numerals that are too
large for a double (`field_isFinite_iff`), and every numeral that is long enough is too large
(`not_isFinite_of_long`).
-/

namespace Reticle.Formula

/-! ## Numerals that are too large -/

/-- A numeral with so many digits before the point is infinite. -/
theorem Numeral.isFinite_value_of_long {n : Numeral} (hfirst : n.whole.head? ≠ some '0')
    (hlong : 310 < n.whole.length) : n.value.isFinite = false := by
  obtain ⟨c, whole, hwhole⟩ := List.exists_cons_of_ne_nil n.whole_ne_nil
  have hc : (c == '0') = false := by
    rw [hwhole] at hfirst
    simpa using hfirst
  have hdigits : (n.whole ++ n.fraction).dropWhile (· == '0') = n.whole ++ n.fraction := by
    rw [hwhole, List.cons_append, List.dropWhile_cons_of_neg (by simpa using hc)]
  unfold Numeral.value Number.Decimal.toFloat
  dsimp only
  rw [hdigits, List.length_append]
  have hplaces : ¬ ((n.whole ++ n.fraction).isEmpty ||
      decide ((0 : Int) - n.fraction.length + (n.whole.length + n.fraction.length : Nat) < -330)) =
        true := by
    simp [hwhole]
    omega
  rw [if_neg hplaces, if_pos (by push_cast; omega)]
  decide +kernel

/-- A field that is a percentage of a numeral too large for a double. -/
def OverlongPercentage (raw : String) : Prop :=
  ∃ n : SignedNumeral, Text.trim raw.toList = n.text ++ ['%'] ∧ n.value.isFinite = false

/-! ## Percentages -/

/-- A hundredth is finite exactly when the number itself is. -/
theorem isFinite_hundredth (x : Float) : (x / 100).isFinite = x.isFinite := by
  have hhundred : Number.exact 100 = .finite 100 := by decide +kernel
  exact Bool.eq_iff_iff.2 (Number.isFinite_div_iff hhundred (by norm_num))

/-- A percentage is finite exactly if its numeral is. -/
theorem isFinite_of_readPercentage {raw : String} {x : Float}
    (h : readPercentage (Text.trim raw.toList) = some x) :
    x.isFinite = true ↔ ¬ OverlongPercentage raw := by
  constructor
  · rintro hx ⟨n, htext, hn⟩
    rw [htext, readPercentage_signed] at h
    rw [← Option.some.inj h, isFinite_hundredth, hn] at hx
    exact Bool.noConfusion hx
  · intro hshort
    obtain ⟨n, htext, rfl⟩ := readPercentage_eq_some_iff.1 h
    rw [isFinite_hundredth]
    by_contra hn
    exact hshort ⟨n, htext, eq_false_of_ne_true hn⟩

/-! ## Values that are checked -/

/-- What the finiteness filter lets through is finite. -/
theorem isFinite_of_filter {x? : Option Float} :
    (x?.filter Float.isFinite).all Float.isFinite = true := by
  cases x? with
  | none => rfl
  | some x => by_cases hx : x.isFinite = true <;> simp [Option.filter, hx]

/-- The values of formulas are finite. -/
theorem isFinite_of_evalArithmetic (text : List Char) :
    (evalArithmetic text).all Float.isFinite = true := by
  unfold evalArithmetic
  split
  · rfl
  · split
    · next expr _ =>
      split
      · next hfinite => exact hfinite
      · rfl
    · rfl

/-- The number found in a text that is no formula is finite. -/
theorem isFinite_of_firstNumber (raw : String) : (firstNumber raw).all Float.isFinite = true := by
  rw [Option.all_eq_true]
  intro x hx
  obtain ⟨digits, -, hx⟩ := Option.bind_eq_some_iff.1 hx
  obtain ⟨n, -, hx⟩ := Option.bind_eq_some_iff.1 hx
  split at hx
  · next hrange =>
    obtain rfl := Option.some.inj hx
    exact Number.isFinite_ofInt (abs_lt.2 ⟨by omega, by omega⟩)
  · cases hx

/-! ## Fields -/

/-- A field that is no percentage has no value or a finite one. -/
theorem isFinite_of_no_percentage {raw : String}
    (h : readPercentage (Text.trim raw.toList) = none) (sliders : Sliders) :
    (evalField raw sliders).1.all Float.isFinite = true := by
  unfold evalField
  dsimp only
  split
  · rfl
  · rw [h]
    dsimp only
    split
    · exact isFinite_of_filter
    · exact isFinite_of_evalArithmetic _

/-- The number of a field is its value as a formula, or else the first number in it. -/
theorem fst_numberFrom (raw : String) (sliders : Sliders) :
    (numberFrom raw sliders).1 = ((evalField raw sliders).1 <|> firstNumber raw) := by
  rw [numberFrom_eq]

/-- The value of a percentage stands, whether it is finite or not. -/
theorem value_of_percentage {raw : String} {x : Float}
    (h : readPercentage (Text.trim raw.toList) = some x) (sliders : Sliders) :
    (evalField raw sliders).1 = some x ∧ (numberFrom raw sliders).1 = some x := by
  have hne : (Text.trim raw.toList).isEmpty = false := by
    obtain ⟨n, htext, -⟩ := readPercentage_eq_some_iff.1 h
    rw [htext]
    simp
  have hvalue : (evalField raw sliders).1 = some x := by
    unfold evalField
    dsimp only
    rw [hne, h]
    rfl
  refine ⟨hvalue, ?_⟩
  rw [fst_numberFrom, hvalue]
  rfl

/-- An overlong percentage is a percentage, so it is never left to the other ways of reading. -/
theorem not_overlong_of_no_percentage {raw : String}
    (h : readPercentage (Text.trim raw.toList) = none) : ¬ OverlongPercentage raw := by
  rintro ⟨n, htext, -⟩
  rw [htext, readPercentage_signed] at h
  cases h

/-- A field has no value or a finite one, read with or without the whole number in it as a last
resort, unless it is the percentage of a numeral too large for a double; such a field has a value,
and that is not finite. -/
theorem field_isFinite_iff (raw : String) (sliders : Sliders) :
    ((evalField raw sliders).1.all Float.isFinite = true ↔ ¬ OverlongPercentage raw) ∧
      ((numberFrom raw sliders).1.all Float.isFinite = true ↔ ¬ OverlongPercentage raw) := by
  cases hpercentage : readPercentage (Text.trim raw.toList) with
  | some x =>
    obtain ⟨hvalue, hnumber⟩ := value_of_percentage hpercentage sliders
    rw [hvalue, hnumber]
    exact ⟨isFinite_of_readPercentage hpercentage, isFinite_of_readPercentage hpercentage⟩
  | none =>
    have hshort := not_overlong_of_no_percentage hpercentage
    have hfield := isFinite_of_no_percentage hpercentage sliders
    refine ⟨iff_of_true hfield hshort, iff_of_true ?_ hshort⟩
    rw [fst_numberFrom]
    cases hvalue : (evalField raw sliders).1 with
    | none => exact isFinite_of_firstNumber raw
    | some x => rwa [hvalue] at hfield

/-! ## Overlong percentages -/

/-- The percentage of a numeral that is long enough has a value that is not finite. -/
theorem not_isFinite_of_long {n : Numeral} (hfirst : n.whole.head? ≠ some '0')
    (hlong : 310 < n.whole.length) (sliders : Sliders) :
    (evalField (.ofList (n.text ++ ['%'])) sliders).1.all Float.isFinite = false ∧
      (numberFrom (.ofList (n.text ++ ['%'])) sliders).1.all Float.isFinite = false := by
  have htrim : Text.trim (String.ofList (n.text ++ ['%'])).toList = n.text ++ ['%'] := by
    rw [String.toList_ofList]
    apply Text.trim_of_not_isBlank
    intro c hc
    rcases List.mem_append.1 hc with hc | hc
    · exact n.not_isBlank hc
    · obtain rfl := List.mem_singleton.1 hc
      decide
  have hpercentage : readPercentage (Text.trim (String.ofList (n.text ++ ['%'])).toList) =
      some (n.value / 100) := by
    rw [htrim]
    exact readPercentage_signed ⟨false, n⟩
  have hinfinite : (n.value / 100).isFinite = false := by
    rw [isFinite_hundredth]
    exact Numeral.isFinite_value_of_long hfirst hlong
  obtain ⟨hvalue, hnumber⟩ := value_of_percentage hpercentage sliders
  rw [hvalue, hnumber]
  exact ⟨hinfinite, hinfinite⟩

/-- A one with zeros behind it is written with digits. -/
theorem isDigit_one_zeros (k : Nat) : ∀ c ∈ '1' :: List.replicate k '0', c.isDigit = true := by
  intro c hc
  rcases List.mem_cons.1 hc with rfl | hc
  · decide
  · rw [List.eq_of_mem_replicate hc]
    decide

/-- One and four hundred zeros. -/
def exampleLong : Numeral :=
  .ofDigits ('1' :: List.replicate 400 '0') (List.cons_ne_nil _ _) (isDigit_one_zeros 400)

/-- The long percentage is given by both functions although it is not finite. -/
theorem not_isFinite_of_exampleLong :
    (evalField (.ofList (exampleLong.text ++ ['%'])) ⟨[]⟩).1.all Float.isFinite = false ∧
      (numberFrom (.ofList (exampleLong.text ++ ['%'])) ⟨[]⟩).1.all Float.isFinite = false := by
  have hfirst : exampleLong.whole.head? ≠ some '0' := by
    show some '1' ≠ some '0'
    decide
  have hlong : 310 < exampleLong.whole.length := by
    show 310 < ('1' :: List.replicate 400 '0').length
    rw [List.length_cons, List.length_replicate]
    decide
  exact not_isFinite_of_long hfirst hlong ⟨[]⟩

end Reticle.Formula
