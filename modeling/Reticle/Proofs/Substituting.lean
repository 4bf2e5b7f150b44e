import Reticle.Formula.Substitution
import Reticle.Proofs.Parsing
import Reticle.Proofs.SliderValues
import Reticle.Proofs.Spacing

/-!
# Writing slider values into formulas

A formula over names is a phrase whose atoms are numerals and names. Its words are its lexemes, and
writing slider values into it changes one word at a time: a name becomes the digits of its value,
every other word stays. What results lexes as the tokens of the same phrase, with each name
standing for its value. Values do not change on the way, since requiring a name does not set it.
-/

namespace Reticle

namespace Formula

/-! ## Atoms -/

/-- A decimal numeral: digits, with a fraction if it is not empty. -/
structure Numeral where
  whole : List Char
  fraction : List Char
  whole_ne_nil : whole ≠ []
  isDigit_whole : ∀ c ∈ whole, c.isDigit = true
  isDigit_fraction : ∀ c ∈ fraction, c.isDigit = true

/-- How a numeral is written. -/
def Numeral.text (n : Numeral) : List Char :=
  if n.fraction = [] then n.whole else n.whole ++ '.' :: n.fraction

/-- The double nearest to a numeral. -/
def Numeral.value (n : Numeral) : Float :=
  Number.Decimal.toFloat ⟨n.whole, n.fraction, 0⟩

/-- A slider name as formulas write it. -/
structure Name where
  first : Char
  more : List Char
  isNameStart_first : isNameStart first = true
  isNameChar_more : ∀ c ∈ more, isNameChar c = true

/-- How a name is written. -/
def Name.text (n : Name) : List Char :=
  n.first :: n.more

/-- A name as a string. -/
def Name.string (n : Name) : String :=
  .ofList n.text

/-- What stands for a number in a formula. -/
inductive Atom
  | numeral (n : Numeral)
  | name (n : Name)

/-- How an atom is written. -/
def Atom.text : Atom → List Char
  | numeral n => n.text
  | name n => n.text

/-- The value of an atom: a name has the value of its slider, and the initial value if there is no
such slider yet. -/
def Atom.value (sliders : Sliders) : Atom → Float
  | numeral n => n.value
  | name n => Float.ofInt ((sliders.value? n.string).getD Slider.initial)

/-- How a mark is written. -/
def Mark.text : Mark → List Char
  | sign .plus => ['+']
  | sign .minus => ['-']
  | scaling .times => ['*']
  | scaling .divide => ['/']
  | power => ['*', '*']
  | opening => ['(']
  | closing => [')']

/-- How a lexeme is written. -/
def Lexeme.text : Lexeme Atom → List Char
  | atom a => a.text
  | mark m => m.text

/-- The name that a lexeme is, if it is one. -/
def Lexeme.name? : Lexeme Atom → Option String
  | atom (.name n) => some n.string
  | _ => none

/-! ## Characters -/

/-- The letters of names are those from A to Z, of either case. -/
theorem toNat_of_isAlpha {c : Char} (h : c.isAlpha = true) :
    65 ≤ c.toNat ∧ c.toNat ≤ 90 ∨ 97 ≤ c.toNat ∧ c.toNat ≤ 122 := by
  rcases Bool.or_eq_true_iff.1 h with hupper | hlower
  · have hbounds : 'A'.val ≤ c.val ∧ c.val ≤ 'Z'.val := of_decide_eq_true hupper
    exact .inl ⟨UInt32.le_iff_toNat_le.1 hbounds.1, UInt32.le_iff_toNat_le.1 hbounds.2⟩
  · obtain ⟨hlow, hhigh⟩ := Bool.and_eq_true_iff.1 hlower
    exact .inr ⟨UInt32.le_iff_toNat_le.1 (of_decide_eq_true hlow),
      UInt32.le_iff_toNat_le.1 (of_decide_eq_true hhigh)⟩

/-- The digits of numbers are those from 0 to 9. -/
theorem toNat_of_isDigit {c : Char} (h : c.isDigit = true) : 48 ≤ c.toNat ∧ c.toNat ≤ 57 :=
  Char.isDigit_iff_toNat.1 h

/-- Blanks are no part of a name. -/
theorem isNameChar_of_isBlank {c : Char} (h : Text.isBlank c = true) : isNameChar c = false := by
  by_contra hc
  rw [Bool.not_eq_false] at hc
  simp only [Text.isBlank, Bool.or_eq_true, Bool.and_eq_true, decide_eq_true_eq, beq_iff_eq] at h
  simp only [isNameChar, isNameStart, Bool.or_eq_true, beq_iff_eq] at hc
  rcases hc with (hc | rfl) | hc
  · have hletter := toNat_of_isAlpha hc
    omega
  · exact absurd h (by decide)
  · have hdigit := toNat_of_isDigit hc
    omega

/-- What is no part of a name does not start one. -/
theorem isNameStart_of_not_isNameChar {c : Char} (h : isNameChar c = false) :
    isNameStart c = false := by
  rw [isNameChar, Bool.or_eq_false_iff] at h
  exact h.1

/-- No character of a number starts a name. -/
theorem isNameStart_of_isNumberChar {c : Char} (h : isNumberChar c = true) :
    isNameStart c = false := by
  by_contra hc
  rw [Bool.not_eq_false] at hc
  simp only [isNumberChar, isNameStart, Bool.or_eq_true, beq_iff_eq] at h hc
  rcases h with h | rfl
  · have hdigit := toNat_of_isDigit h
    rcases hc with hc | rfl
    · have hletter := toNat_of_isAlpha hc
      omega
    · exact absurd hdigit (by decide)
  · exact absurd hc (by decide)

/-- Digits belong to numbers. -/
theorem isNumberChar_of_isDigit {c : Char} (h : c.isDigit = true) : isNumberChar c = true := by
  simp [isNumberChar, h]

/-- Numbers belong to arithmetic. -/
theorem isArithmeticChar_of_isNumberChar {c : Char} (h : isNumberChar c = true) :
    isArithmeticChar c = true := by
  simp only [isNumberChar, Bool.or_eq_true, beq_iff_eq] at h
  rcases h with h | rfl
  · simp [isArithmeticChar, h]
  · decide

/-- Blanks belong to arithmetic. -/
theorem isArithmeticChar_of_isBlank {c : Char} (h : Text.isBlank c = true) :
    isArithmeticChar c = true := by
  simp [isArithmeticChar, h]

/-- A numeral is written with characters of numbers. -/
theorem Numeral.isNumberChar_of_mem (n : Numeral) {c : Char} (h : c ∈ n.text) :
    isNumberChar c = true := by
  unfold Numeral.text at h
  split at h
  · exact isNumberChar_of_isDigit (n.isDigit_whole c h)
  · rcases List.mem_append.1 h with h | h
    · exact isNumberChar_of_isDigit (n.isDigit_whole c h)
    · rcases List.mem_cons.1 h with rfl | h
      · rfl
      · exact isNumberChar_of_isDigit (n.isDigit_fraction c h)

/-- A numeral is a decimal of its value. -/
theorem Numeral.isDecimal (n : Numeral) : Number.IsDecimal n.text n.value := by
  unfold Numeral.text Numeral.value
  split
  · next hnil =>
    rw [hnil]
    exact .whole n.whole_ne_nil n.isDigit_whole
  · exact .point (.inl n.whole_ne_nil) n.isDigit_whole n.isDigit_fraction

/-- A name is written with characters of names. -/
theorem Name.isNameChar_of_mem (n : Name) {c : Char} (h : c ∈ n.text) : isNameChar c = true := by
  rcases List.mem_cons.1 h with rfl | h
  · simp [isNameChar, n.isNameStart_first]
  · exact n.isNameChar_more c h

/-- A mark is written with characters of arithmetic that are neither blank nor start a name. -/
theorem Mark.of_mem_text (m : Mark) {c : Char} (h : c ∈ m.text) :
    isNameStart c = false ∧ isArithmeticChar c = true ∧ Text.isBlank c = false := by
  have hall : (m.text.all fun d => !isNameStart d && isArithmeticChar d && !Text.isBlank d) := by
    rcases m with (_ | _) | (_ | _) | _ | _ | _ <;> decide
  simpa [and_assoc] using List.all_eq_true.1 hall c h

/-! ## One word at a time -/

/-- A name resolves to its value, or the initial one, and is required. -/
theorem resolve_eq (sliders : Sliders) (name : String) :
    sliders.resolve name = ((sliders.value? name).getD Slider.initial, sliders.require name) := by
  have hvalue : (sliders.resolve name).1 = (sliders.value? name).getD Slider.initial := by
    rw [Sliders.fst_resolve]
    unfold Sliders.value? Sliders.valueOf
    by_cases hreserved : Slider.keyOf name = Slider.reservedKey <;> simp [hreserved]
  unfold Sliders.resolve at hvalue ⊢
  dsimp only at hvalue ⊢
  rw [hvalue]

/-- A name is replaced by the digits of its value, and required. -/
theorem valueText_name (n : Name) (sliders : Sliders) :
    valueText n.text sliders =
      ((toString ((sliders.value? n.string).getD Slider.initial)).toList,
        sliders.require n.string) := by
  have hne : n.text.isEmpty = false := rfl
  unfold valueText
  rw [hne, if_neg Bool.false_ne_true, show String.ofList n.text = n.string from rfl, resolve_eq]

/-- Where a name ends, its value is written. -/
theorem substituteAfter_of_stop (name : List Char) {rest : List Char}
    (hrest : ∀ c ∈ rest.head?, isNameChar c = false) (sliders : Sliders) :
    substituteAfter name rest sliders =
      ((valueText name sliders).1 ++ (substituteAfter [] rest (valueText name sliders).2).1,
        (substituteAfter [] rest (valueText name sliders).2).2) := by
  rcases rest with _ | ⟨c, rest⟩
  · simp [substituteAfter, valueText]
  · have hc : isNameChar c = false := hrest c rfl
    simp [substituteAfter, hc, isNameStart_of_not_isNameChar hc, valueText]

/-- The characters of a name are collected up to its end. -/
theorem substituteAfter_append_name {name : List Char} (hne : name ≠ []) {more : List Char}
    (hmore : ∀ c ∈ more, isNameChar c = true) (rest : List Char) (sliders : Sliders) :
    substituteAfter name (more ++ rest) sliders = substituteAfter (name ++ more) rest sliders := by
  induction more generalizing name with
  | nil => rw [List.nil_append, List.append_nil]
  | cons c more ih =>
    have hempty : name.isEmpty = false := by simpa using hne
    have hgrown := ih (List.append_ne_nil_of_left_ne_nil hne [c])
      fun d hd => hmore d (List.mem_cons_of_mem _ hd)
    simp [substituteAfter, hempty, hmore c List.mem_cons_self, hgrown]

/-- A name that ends is replaced by its value before the rest is substituted, and required before
the names of the rest. -/
theorem substituteAfter_name (n : Name) {rest : List Char}
    (hrest : ∀ c ∈ rest.head?, isNameChar c = false) (sliders : Sliders) :
    substituteAfter [] (n.text ++ rest) sliders =
      ((toString ((sliders.value? n.string).getD Slider.initial)).toList ++
          (substituteAfter [] rest (sliders.require n.string)).1,
        (substituteAfter [] rest (sliders.require n.string)).2) := by
  have hfirst : substituteAfter [] (n.text ++ rest) sliders =
      substituteAfter [n.first] (n.more ++ rest) sliders := by
    simp [Name.text, substituteAfter, n.isNameStart_first]
  rw [hfirst, substituteAfter_append_name (List.cons_ne_nil _ _) n.isNameChar_more,
    show [n.first] ++ n.more = n.text from rfl, substituteAfter_of_stop _ hrest, valueText_name]

/-- What starts no name is left as it is. -/
theorem substituteAfter_append {text : List Char} (h : ∀ c ∈ text, isNameStart c = false)
    (rest : List Char) (sliders : Sliders) :
    substituteAfter [] (text ++ rest) sliders =
      (text ++ (substituteAfter [] rest sliders).1, (substituteAfter [] rest sliders).2) := by
  induction text with
  | nil => rfl
  | cons c text ih =>
    rw [List.cons_append, substituteAfter]
    simp [h c List.mem_cons_self, ih fun d hd => h d (List.mem_cons_of_mem _ hd), valueText]

/-! ## Values -/

/-- The values of sliders are written as decimals. -/
theorem isDecimal_toString {value : Int} (h : Slider.clamp value = value) :
    Number.IsDecimal (toString value).toList (Float.ofInt value) ∧
      ∀ c ∈ (toString value).toList, c.isDigit = true := by
  have hall : ∀ n ∈ List.range 11,
      Number.readPlain (toString (n : Int)).toList = some (Float.ofInt n) ∧
        (toString (n : Int)).toList.all Char.isDigit = true := by
    decide +kernel
  unfold Slider.clamp Slider.least Slider.greatest at h
  obtain ⟨n, rfl⟩ := Int.eq_ofNat_of_zero_le (show 0 ≤ value by omega)
  obtain ⟨hread, hdigits⟩ := hall n (List.mem_range.2 (by omega))
  exact ⟨Number.isDecimal_of_readPlain hread, List.all_eq_true.1 hdigits⟩

/-- The value put in for a name is within the limits of sliders. -/
theorem clamp_value? {sliders : Sliders} (h : sliders.WellFormed) (name : String) :
    Slider.clamp ((sliders.value? name).getD Slider.initial) =
      (sliders.value? name).getD Slider.initial := by
  have hvalue : (sliders.value? name).getD Slider.initial = (sliders.resolve name).1 := by
    rw [resolve_eq]
  rw [hvalue, Sliders.fst_resolve]
  split
  · rfl
  · exact Sliders.clamp_valueOf h _

/-- Requiring a name changes no value. -/
theorem Atom.value_require (a : Atom) (sliders : Sliders) (name : String) :
    a.value (sliders.require name) = a.value sliders := by
  cases a with
  | numeral n => rfl
  | name n =>
    have hresolve := (Sliders.sameValues_require sliders name).fst_resolve n.string
    rw [resolve_eq, resolve_eq] at hresolve
    unfold Atom.value
    dsimp only at hresolve ⊢
    rw [hresolve]

end Formula

end Reticle
