import Reticle.Proofs.NamedFormulas

/-!
# Signed numerals

Outside formulas a numeral can have a minus sign in front. Such a text reads as its value
(`SignedNumeral.readNumber_text`), and the fields that are percentages are exactly those written as
a signed numeral and a percent sign (`readPercentage_eq_some_iff`).
-/

namespace Reticle.Formula

/-! ## Numerals at the start of a text -/

theorem isDigit_of_mem_nil : ∀ c ∈ ([] : List Char), c.isDigit = true := by
  simp

/-- The numeral without a fraction that is written with some digits. -/
def Numeral.ofDigits (digits : List Char) (hne : digits ≠ [])
    (hdigits : ∀ c ∈ digits, c.isDigit = true) : Numeral :=
  ⟨digits, [], hne, hdigits, isDigit_of_mem_nil⟩

/-- What is taken from the start of a text is a numeral. -/
theorem exists_numeral_of_takeNumeral? {text numeral rest : List Char}
    (h : takeNumeral? text = some (numeral, rest)) : ∃ n : Numeral, n.text = numeral := by
  have hdigits : ∀ (run : List Char), ∀ c ∈ run.takeWhile Char.isDigit, c.isDigit = true :=
    fun run c hc => List.mem_takeWhile_imp hc
  simp only [takeNumeral?, List.isEmpty_iff] at h
  split at h
  · cases h
  next hwhole =>
    have hplain : ∃ n : Numeral, n.text = text.takeWhile Char.isDigit :=
      ⟨.ofDigits _ hwhole (hdigits text), if_pos rfl⟩
    split at h
    · next after hafter =>
      split at h
      · cases h
        exact hplain
      · next hfraction =>
        cases h
        exact ⟨⟨_, _, hwhole, hdigits text, hdigits after⟩, if_neg hfraction⟩
    · cases h
      exact hplain

/-- A numeral is taken whole when no digit or point follows it. -/
theorem takeNumeral?_numeral (n : Numeral) {rest : List Char}
    (hrest : ∀ c ∈ rest.head?, isNumberChar c = false) :
    takeNumeral? (n.text ++ rest) = some (n.text, rest) := by
  have hstop : ∀ c ∈ rest.head?, c.isDigit = false ∧ c ≠ '.' := by
    intro c hc
    have hnumber := hrest c hc
    unfold isNumberChar at hnumber
    simpa using hnumber
  have hwhole : n.whole.isEmpty = false := by simpa using n.whole_ne_nil
  by_cases hfraction : n.fraction = []
  · have htext : n.text = n.whole := if_pos hfraction
    obtain ⟨htake, hdrop⟩ := Number.takeWhile_isDigit_append n.isDigit_whole rest
      fun c hc => (hstop c hc).1
    unfold takeNumeral?
    simp only [htext, htake, hdrop, hwhole, Bool.false_eq_true, if_false]
    split
    · exact absurd rfl (hstop '.' rfl).2
    · rfl
  · have htext : n.text = n.whole ++ '.' :: n.fraction := if_neg hfraction
    obtain ⟨htake, hdrop⟩ := Number.takeWhile_isDigit_append n.isDigit_whole
      ('.' :: (n.fraction ++ rest)) (by simp)
    obtain ⟨htake', hdrop'⟩ := Number.takeWhile_isDigit_append n.isDigit_fraction rest
      fun c hc => (hstop c hc).1
    unfold takeNumeral?
    rw [htext, List.append_assoc, List.cons_append]
    simp only [htake, hdrop, hwhole, htake', hdrop', List.isEmpty_iff, hfraction,
      Bool.false_eq_true, if_false]

/-! ## Signs -/

/-- A numeral has no blanks. -/
theorem Numeral.not_isBlank (n : Numeral) {c : Char} (h : c ∈ n.text) :
    Text.isBlank c = false := by
  by_contra hblank
  have hnumber := n.isNumberChar_of_mem h
  rw [isNumberChar_of_isBlank (by simpa using hblank)] at hnumber
  exact Bool.noConfusion hnumber

/-- A numeral does not start with a sign. -/
theorem Numeral.head?_text_ne (n : Numeral) (rest : List Char) :
    (n.text ++ rest).head? ≠ some '-' := by
  obtain ⟨c, more, htext, hdigit⟩ := n.exists_text_eq_cons
  rw [htext]
  intro hhead
  obtain rfl := Option.some.inj hhead
  exact absurd hdigit (by decide)

/-- A numeral with an optional minus sign. -/
structure SignedNumeral where
  negative : Bool
  numeral : Numeral

namespace SignedNumeral

/-- How a signed numeral is written. -/
def text (n : SignedNumeral) : List Char :=
  if n.negative then '-' :: n.numeral.text else n.numeral.text

/-- The double nearest to a signed numeral. -/
def value (n : SignedNumeral) : Float :=
  if n.negative then -n.numeral.value else n.numeral.value

/-- A signed numeral is read as its value. -/
theorem readNumber_text (n : SignedNumeral) : Number.readNumber n.text = some n.value := by
  obtain ⟨negative, n⟩ := n
  cases negative with
  | false => exact readNumber_numeral n
  | true =>
    show (Number.readUnsigned n.text).map (- ·) = some (-n.value)
    rw [readUnsigned_numeral, Option.map_some]

/-- A signed numeral is written with something. -/
theorem text_ne_nil (n : SignedNumeral) : n.text ≠ [] := by
  obtain ⟨c, more, htext, -⟩ := n.numeral.exists_text_eq_cons
  unfold text
  split <;> simp [htext]

/-- A signed numeral is written with a minus sign and characters of numbers. -/
theorem isNumberChar_of_mem (n : SignedNumeral) {c : Char} (h : c ∈ n.text) :
    c = '-' ∨ isNumberChar c = true := by
  unfold text at h
  split at h
  · rcases List.mem_cons.1 h with rfl | h
    · exact .inl rfl
    · exact .inr (n.numeral.isNumberChar_of_mem h)
  · exact .inr (n.numeral.isNumberChar_of_mem h)

/-- A signed numeral has no blanks. -/
theorem not_isBlank (n : SignedNumeral) {c : Char} (h : c ∈ n.text) : Text.isBlank c = false := by
  unfold text at h
  split at h
  · rcases List.mem_cons.1 h with rfl | h
    · decide
    · exact n.numeral.not_isBlank h
  · exact n.numeral.not_isBlank h

/-- The longest start of a signed numeral that reads as a number is all of it. -/
theorem readLeading_text {n : SignedNumeral} (h : n.value.isFinite = true) :
    Number.readLeading n.text = some n.value := by
  have htrim : Text.trim n.text = n.text := Text.trim_of_not_isBlank fun c hc => n.not_isBlank hc
  obtain ⟨k, hk⟩ : ∃ k, n.text.length = k + 1 :=
    Nat.exists_eq_succ_of_ne_zero fun hzero => n.text_ne_nil (List.length_eq_zero_iff.1 hzero)
  have hwhole : n.text.take (k + 1) = n.text := List.take_of_length_le hk.le
  unfold Number.readLeading
  dsimp only
  rw [htrim, hk, List.range_succ, List.reverse_append, List.reverse_singleton,
    List.singleton_append, List.map_cons, List.findSome?_cons, hwhole, n.readNumber_text]
  exact if_pos h

end SignedNumeral

/-! ## Percentages -/

/-- A text is one percentage to be taken when it is a numeral with a percent sign behind it. -/
theorem takePercent?_eq_some_iff {text numeral : List Char} :
    takePercent? text = some (numeral, []) ↔
      ∃ n : Numeral, n.text = numeral ∧ text = numeral ++ ['%'] := by
  constructor
  · intro h
    unfold takePercent? at h
    split at h
    · next hnumeral =>
      cases h
      obtain ⟨n, hn⟩ := exists_numeral_of_takeNumeral? hnumeral
      exact ⟨n, hn, eq_append_of_takeNumeral? hnumeral⟩
    · cases h
  · rintro ⟨n, rfl, rfl⟩
    have hstop : ∀ c ∈ ['%'].head?, isNumberChar c = false := by
      rintro c hc
      obtain rfl := Option.some.inj hc
      rfl
    unfold takePercent?
    rw [takeNumeral?_numeral n hstop]
    rfl

/-- The numeral of a percentage is read with its sign. -/
theorem readPercentage_signed (n : SignedNumeral) :
    readPercentage (n.text ++ ['%']) = some (n.value / 100) := by
  have htake : takePercent? (n.numeral.text ++ ['%']) = some (n.numeral.text, []) :=
    takePercent?_eq_some_iff.2 ⟨n.numeral, rfl, rfl⟩
  have hread := n.readNumber_text
  obtain ⟨negative, n⟩ := n
  unfold readPercentage
  cases negative with
  | false =>
    have hsign : ¬ (n.text ++ ['%']).head? = some '-' := n.head?_text_ne ['%']
    change Number.readNumber n.text = _ at hread
    simp only [SignedNumeral.text, Bool.false_eq_true, if_false, hsign, htake, List.nil_append,
      hread, Option.map_some]
  | true =>
    change Number.readNumber ('-' :: n.text) = _ at hread
    simp only [SignedNumeral.text, if_true, List.cons_append, List.head?_cons, List.drop_one,
      List.tail_cons, htake, List.nil_append, hread, Option.map_some]

/-- A text is read as a percentage when it is a signed numeral with a percent sign behind it, and
then as a hundredth. -/
theorem readPercentage_eq_some_iff {text : List Char} {x : Float} :
    readPercentage text = some x ↔
      ∃ n : SignedNumeral, text = n.text ++ ['%'] ∧ n.value / 100 = x := by
  constructor
  · intro h
    -- A field with a percentage in it is written like a signed numeral, which decides its value.
    have hwritten : ∃ n : SignedNumeral, text = n.text ++ ['%'] := by
      unfold readPercentage at h
      dsimp only at h
      split at h
      · next numeral htake =>
        obtain ⟨n, rfl, hrest⟩ := takePercent?_eq_some_iff.1 htake
        split at hrest
        · next hminus =>
          obtain ⟨rest, rfl⟩ := List.head?_eq_some_iff.1 hminus
          exact ⟨⟨true, n⟩, congrArg _ hrest⟩
        · exact ⟨⟨false, n⟩, hrest⟩
      · cases h
    obtain ⟨n, rfl⟩ := hwritten
    rw [readPercentage_signed] at h
    exact ⟨n, rfl, Option.some.inj h⟩
  · rintro ⟨n, rfl, rfl⟩
    exact readPercentage_signed n

end Reticle.Formula
