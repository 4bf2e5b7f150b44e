import Mathlib.Data.List.Find
import Reticle.Proofs.Substituting

/-!
# Formulas over names

Writing slider values into a formula word by word gives the tokens of the phrase with its names
standing for their values (`substituted`), so that the parser finds the tree in which each name
denotes the value of its slider.
-/

namespace Reticle.Formula

/-! ## The whole text -/

/-- What becomes of a text that is written with these lexemes: each name is a number with the value
of its slider, nothing else than arithmetic is left, and the names are required in order. -/
structure Substituted (lexemes : List (Lexeme Atom)) (sliders : Sliders)
    (result : List Char × Sliders) : Prop where
  lexes : Lexes result.1 (lexemes.map (Lexeme.token (Atom.value sliders)))
  arithmetic : ∀ c ∈ result.1, isArithmeticChar c = true
  sliders_eq : result.2 = (lexemes.filterMap Lexeme.name?).foldl Sliders.require sliders

/-- A mark that a blank follows is written as its token. -/
theorem Lexes.mark (m : Mark) {rest : List Char} {tokens : List Token}
    (hstop : ∀ c ∈ rest.head?, Text.isBlank c = true) (h : Lexes rest tokens) :
    Lexes (m.text ++ rest) (m.token :: tokens) := by
  have hgap : ∀ c, Text.isBlank c = false → rest.head? ≠ some c := by
    intro c hc hhead
    rw [hstop c hhead] at hc
    exact Bool.noConfusion hc
  rcases m with (_ | _) | (_ | _) | _ | _ | _
  · exact .single rfl (fun _ => hgap _ (by decide)) h
  · exact .single rfl (fun _ => hgap _ (by decide)) h
  · exact .single rfl (fun _ => hgap _ (by decide)) h
  · exact .single rfl (fun _ => hgap _ (by decide)) h
  · exact .power h
  · exact .single rfl (fun _ => hgap _ (by decide)) h
  · exact .single rfl (fun _ => hgap _ (by decide)) h

/-- Blanks are left where they are. -/
theorem substituteAfter_blank {c : Char} (hc : Text.isBlank c = true) (rest : List Char)
    (sliders : Sliders) :
    substituteAfter [] (c :: rest) sliders =
      (c :: (substituteAfter [] rest sliders).1, (substituteAfter [] rest sliders).2) := by
  have hstart : ∀ d ∈ [c], isNameStart d = false := by
    simp [isNameStart_of_not_isNameChar (isNameChar_of_isBlank hc)]
  exact substituteAfter_append hstart rest sliders

/-- A blank at the start of a text stays there. -/
theorem head?_substituteAfter {text : List Char} (h : ∀ c ∈ text.head?, Text.isBlank c = true)
    (sliders : Sliders) :
    ∀ c ∈ (substituteAfter [] text sliders).1.head?, Text.isBlank c = true := by
  rcases text with _ | ⟨c, rest⟩
  · simp [substituteAfter, valueText]
  · rw [substituteAfter_blank (h c rfl)]
    exact h

section Words

variable {lexemes : List (Lexeme Atom)} {sliders : Sliders} {rest : List Char}

/-- What a text becomes, a blank in front of it. -/
theorem Substituted.blank {c : Char} (hc : Text.isBlank c = true)
    (h : Substituted lexemes sliders (substituteAfter [] rest sliders)) :
    Substituted lexemes sliders (substituteAfter [] (c :: rest) sliders) := by
  rw [substituteAfter_blank hc]
  refine ⟨.blank hc h.lexes, ?_, h.sliders_eq⟩
  intro d hd
  rcases List.mem_cons.1 hd with rfl | hd
  · exact isArithmeticChar_of_isBlank hc
  · exact h.arithmetic d hd

/-- What a text becomes, a mark in front of it. -/
theorem Substituted.mark (m : Mark) (hstop : ∀ c ∈ rest.head?, Text.isBlank c = true)
    (h : Substituted lexemes sliders (substituteAfter [] rest sliders)) :
    Substituted (.mark m :: lexemes) sliders (substituteAfter [] (m.text ++ rest) sliders) := by
  rw [substituteAfter_append fun c hc => (m.of_mem_text hc).1]
  refine ⟨.mark m (head?_substituteAfter hstop sliders) h.lexes, ?_, h.sliders_eq⟩
  intro c hc
  rcases List.mem_append.1 hc with hc | hc
  · exact (m.of_mem_text hc).2.1
  · exact h.arithmetic c hc

/-- What a text becomes, a numeral in front of it. -/
theorem Substituted.numeral (n : Numeral) (hstop : ∀ c ∈ rest.head?, Text.isBlank c = true)
    (h : Substituted lexemes sliders (substituteAfter [] rest sliders)) :
    Substituted (.atom (.numeral n) :: lexemes) sliders
      (substituteAfter [] (n.text ++ rest) sliders) := by
  have hnumber : ∀ c ∈ n.text, isNumberChar c = true := fun c hc => n.isNumberChar_of_mem hc
  rw [substituteAfter_append fun c hc => isNameStart_of_isNumberChar (hnumber c hc)]
  refine ⟨.number hnumber ?_ n.isDecimal h.lexes, ?_, h.sliders_eq⟩
  · intro c hc
    exact isNumberChar_of_isBlank (head?_substituteAfter hstop sliders c hc)
  · intro c hc
    rcases List.mem_append.1 hc with hc | hc
    · exact isArithmeticChar_of_isNumberChar (hnumber c hc)
    · exact h.arithmetic c hc

/-- What a text becomes, a name in front of it: its value takes its place, and the name is required
before all others. -/
theorem Substituted.name (hwf : sliders.WellFormed) (n : Name)
    (hstop : ∀ c ∈ rest.head?, Text.isBlank c = true)
    (h : Substituted lexemes (sliders.require n.string)
      (substituteAfter [] rest (sliders.require n.string))) :
    Substituted (.atom (.name n) :: lexemes) sliders
      (substituteAfter [] (n.text ++ rest) sliders) := by
  have hend : ∀ c ∈ rest.head?, isNameChar c = false := fun c hc =>
    isNameChar_of_isBlank (hstop c hc)
  obtain ⟨hdecimal, hdigits⟩ := isDecimal_toString (clamp_value? hwf n.string)
  have hnumber : ∀ c ∈ (toString ((sliders.value? n.string).getD Slider.initial)).toList,
      isNumberChar c = true := fun c hc => isNumberChar_of_isDigit (hdigits c hc)
  have hsame : Atom.value (sliders.require n.string) = Atom.value sliders :=
    funext fun a => a.value_require sliders n.string
  rw [substituteAfter_name n hend]
  refine ⟨.number hnumber ?_ hdecimal (hsame ▸ h.lexes), ?_, h.sliders_eq⟩
  · intro c hc
    exact isNumberChar_of_isBlank (head?_substituteAfter hstop _ c hc)
  · intro c hc
    rcases List.mem_append.1 hc with hc | hc
    · exact isArithmeticChar_of_isNumberChar (hnumber c hc)
    · exact h.arithmetic c hc

end Words

/-- Values are written into a text word by word. -/
theorem substituted {lexemes : List (Lexeme Atom)} {sliders : Sliders} (hwf : sliders.WellFormed)
    {text : List Char} (h : Text.Spaced (lexemes.map Lexeme.text) text) :
    Substituted lexemes sliders (substituteAfter [] text sliders) := by
  -- A name changes the sliders for all words after it, but none of their values.
  generalize hwords : lexemes.map Lexeme.text = words at h
  induction h generalizing lexemes sliders with
  | nil =>
    obtain rfl := List.map_eq_nil_iff.1 hwords
    exact ⟨.nil, by simp [substituteAfter, valueText], rfl⟩
  | blank hc _ ih => exact .blank hc (ih hwf hwords)
  | word _ _ hstop _ ih =>
    obtain ⟨lexeme, others, rfl, rfl, hothers⟩ := List.map_eq_cons_iff.1 hwords
    rcases lexeme with (n | n) | m
    · exact .numeral n hstop (ih hwf hothers)
    · exact .name hwf n hstop (ih (hwf.require n.string) hothers)
    · exact .mark m hstop (ih hwf hothers)

/-! ## Literal texts -/

/-- Without a percent sign no percentage is taken. -/
theorem takePercent?_eq_none {text : List Char} (h : '%' ∉ text) : takePercent? text = none := by
  unfold takePercent?
  split
  · next numeral rest hnumeral =>
    rw [eq_append_of_takeNumeral? hnumeral] at h
    simp at h
  · rfl

/-- Without a percent sign a text is no percentage. -/
theorem readPercentage_eq_none {text : List Char} (h : '%' ∉ text) : readPercentage text = none := by
  have htail : '%' ∉ text.tail := fun hmem => h (List.mem_of_mem_tail hmem)
  unfold readPercentage
  by_cases hminus : text.head? = some '-'
  · simp [hminus, takePercent?_eq_none htail]
  · simp [hminus, takePercent?_eq_none h]

/-- Without a percent sign nothing is expanded. -/
theorem expandPercentages_of_not_mem {text : List Char} (h : '%' ∉ text) :
    expandPercentages text = text := by
  induction text with
  | nil =>
    unfold expandPercentages
    split
    · next hpercent => rw [takePercent?_eq_none h] at hpercent; cases hpercent
    · rfl
  | cons c rest ih =>
    unfold expandPercentages
    split
    · next hpercent => rw [takePercent?_eq_none h] at hpercent; cases hpercent
    · exact congrArg _ (ih fun hmem => h (List.mem_cons_of_mem _ hmem))

/-- A numeral consists of characters that numbers have. -/
theorem isNumberChar_of_takeNumeral? {text numeral rest : List Char}
    (h : takeNumeral? text = some (numeral, rest)) : ∀ c ∈ numeral, isNumberChar c = true := by
  have hdigit : ∀ (run : List Char), ∀ c ∈ run.takeWhile Char.isDigit, isNumberChar c = true :=
    fun run c hc => isNumberChar_of_isDigit (List.mem_takeWhile_imp hc)
  simp only [takeNumeral?] at h
  split at h
  · cases h
  split at h
  · split at h
    · cases h
      exact hdigit text
    · cases h
      intro c hc
      rcases List.mem_append.1 hc with hc | hc
      · exact hdigit text c hc
      · rcases List.mem_cons.1 hc with rfl | hc
        · rfl
        · exact hdigit _ c hc
  · cases h
    exact hdigit text

/-- A text that is a numeral has no blanks. -/
theorem not_isBlank_of_takeNumeral? {text numeral : List Char}
    (h : takeNumeral? text = some (numeral, [])) : ∀ c ∈ text, Text.isBlank c = false := by
  intro c hc
  rw [eq_append_of_takeNumeral? h, List.append_nil] at hc
  by_contra hblank
  have hnumber := isNumberChar_of_takeNumeral? h c hc
  rw [isNumberChar_of_isBlank (by simpa using hblank)] at hnumber
  exact Bool.noConfusion hnumber

/-- There is no blank in a plain number. -/
theorem not_isBlank_of_isPlainNumber {text : List Char} (h : isPlainNumber text = true) :
    ∀ c ∈ text, Text.isBlank c = false := by
  unfold isPlainNumber at h
  dsimp only at h
  split at h
  · next numeral hnumeral =>
    split at hnumeral
    · next hsign =>
      rcases text with _ | ⟨sign, text⟩
      · simp
      rintro c hc
      rcases List.mem_cons.1 hc with rfl | hc
      · simp only [List.head?_cons, Option.some.injEq] at hsign
        rcases hsign with rfl | rfl <;> decide
      · exact not_isBlank_of_takeNumeral? hnumeral c hc
    · exact not_isBlank_of_takeNumeral? hnumeral
  · cases h

/-- A name is not a number. -/
theorem isPlainNumber_name (n : Name) : isPlainNumber n.text = false := by
  have hdigit : n.first.isDigit = false := by
    by_contra hd
    have hstart := isNameStart_of_isNumberChar (isNumberChar_of_isDigit (by simpa using hd))
    rw [n.isNameStart_first] at hstart
    exact Bool.noConfusion hstart
  have hsign : ¬ (n.text.head? = some '-' ∨ n.text.head? = some '+') := by
    have hfirst := n.isNameStart_first
    rintro (h | h)
    · rw [Option.some.inj h] at hfirst
      exact absurd hfirst (by decide)
    · rw [Option.some.inj h] at hfirst
      exact absurd hfirst (by decide)
  unfold isPlainNumber
  rw [if_neg hsign]
  simp [Name.text, takeNumeral?, hdigit]

/-- The decimals that are scanned have no exponent. -/
theorem exponent_of_scanDecimal {text rest : List Char} {d : Number.Decimal}
    (h : Number.scanDecimal text = some (d, rest)) : d.exponent = 0 := by
  simp only [Number.scanDecimal] at h
  split at h
  · split at h
    · cases h
    · cases h
      rfl
  · split at h
    · cases h
    · cases h
      rfl

/-- A digit is its own lower case. -/
theorem toLower_of_isDigit {c : Char} (h : c.isDigit = true) : c.toLower = c := by
  have hdigit := toNat_of_isDigit h
  have hcapital : ¬ ('A'.val ≤ c.val ∧ c.val ≤ 'Z'.val) := by
    rintro ⟨hlow, -⟩
    have hlow : 65 ≤ c.toNat := UInt32.le_iff_toNat_le.1 hlow
    omega
  exact dif_neg hcapital

/-- A numeral starts with a digit. -/
theorem Numeral.exists_text_eq_cons (n : Numeral) :
    ∃ c rest, n.text = c :: rest ∧ c.isDigit = true := by
  obtain ⟨c, whole, hwhole⟩ := List.exists_cons_of_ne_nil n.whole_ne_nil
  have hdigit := n.isDigit_whole c (hwhole ▸ List.mem_cons_self)
  unfold Numeral.text
  split
  · exact ⟨c, whole, hwhole, hdigit⟩
  · exact ⟨c, whole ++ '.' :: n.fraction, by rw [hwhole, List.cons_append], hdigit⟩

/-- A numeral is scanned to its end, as its value. -/
theorem Numeral.exists_scanDecimal (n : Numeral) :
    ∃ d, Number.scanDecimal n.text = some (d, []) ∧ d.toFloat = n.value := by
  have hread := Number.readPlain_of_isDecimal n.isDecimal
  unfold Number.readPlain at hread
  split at hread
  · next d hd => exact ⟨d, hd, Option.some.inj hread⟩
  · cases hread

/-- A numeral starts with a digit, so that it is none of the names that read as numbers, and it
reads as its value in the long form as well. -/
theorem readUnsigned_numeral (n : Numeral) : Number.readUnsigned n.text = some n.value := by
  obtain ⟨c, rest, htext, hdigit⟩ := n.exists_text_eq_cons
  have hlower : c.toLower ≠ 'i' ∧ c.toLower ≠ 'n' := by
    rw [toLower_of_isDigit hdigit]
    constructor <;> rintro rfl <;> exact absurd hdigit (by decide)
  obtain ⟨d, hd, hvalue⟩ := n.exists_scanDecimal
  unfold Number.readUnsigned
  simp only [htext, List.map_cons, List.cons.injEq, hlower, false_and, or_self, if_false]
  rw [← htext, hd, ← hvalue]
  obtain ⟨whole, fraction, exponent⟩ := d
  obtain rfl : exponent = 0 := exponent_of_scanDecimal hd
  rfl

/-- A numeral is read as its value. -/
theorem readNumber_numeral (n : Numeral) : Number.readNumber n.text = some n.value := by
  obtain ⟨c, rest, htext, hdigit⟩ := n.exists_text_eq_cons
  rw [Number.readNumber.eq_3, readUnsigned_numeral]
  · rintro tail htail
    rw [htext] at htail
    obtain ⟨rfl, -⟩ := List.cons.inj htail
    exact absurd hdigit (by decide)
  · rintro tail htail
    rw [htext] at htail
    obtain ⟨rfl, -⟩ := List.cons.inj htail
    exact absurd hdigit (by decide)

/-! ## Fields -/

/-- The names in a phrase, in order. -/
def Phrase.names {category : Category} (phrase : Phrase Atom category) : List String :=
  phrase.lexemes.filterMap Lexeme.name?

/-- No lexeme is written with a percent sign. -/
theorem Lexeme.percent_not_mem (lexeme : Lexeme Atom) : '%' ∉ lexeme.text := by
  intro h
  rcases lexeme with (n | n) | m
  · exact absurd (n.isNumberChar_of_mem h) (by decide)
  · exact absurd (n.isNameChar_of_mem h) (by decide)
  · exact absurd (m.of_mem_text h).2.1 (by decide)

/-- A plain number is the only word, and that word is a numeral. -/
theorem evalField_of_isPlainNumber {sum : Phrase Atom .sum} {text : List Char}
    (hwords : Text.words text = sum.lexemes.map Lexeme.text) (hne : text ≠ [])
    (hplain : isPlainNumber text = true) (sliders : Sliders) :
    Number.readNumber text = some (sum.tree (Atom.value sliders)).eval ∧ sum.names = [] := by
  have hone : Text.words text = [text] := by
    have hstop : ∀ c ∈ ([] : List Char).head?, Text.isBlank c = true := by simp
    have happend := Text.words_append hne (not_isBlank_of_isPlainNumber hplain) hstop
    rwa [List.append_nil] at happend
  rw [hone] at hwords
  obtain ⟨lexeme, hlexemes, rfl⟩ := List.map_eq_singleton_iff.1 hwords.symm
  obtain ⟨a, rfl, htree⟩ := Phrase.eq_atom_of_lexemes_eq (Atom.value sliders) hlexemes
  cases a with
  | numeral n =>
    rw [htree]
    refine ⟨readNumber_numeral n, ?_⟩
    rw [Phrase.names, hlexemes]
    rfl
  | name n =>
    rw [show Lexeme.text (.atom (.name n)) = n.text from rfl, isPlainNumber_name] at hplain
    exact Bool.noConfusion hplain

/-- Any other text is evaluated after values are written into it. -/
theorem evalArithmetic_substitute {sliders : Sliders} (hwf : sliders.WellFormed)
    {sum : Phrase Atom .sum} {text : List Char}
    (hwords : Text.words text = sum.lexemes.map Lexeme.text) :
    evalArithmetic (expandPercentages (substitute text sliders).1) =
        (some (sum.tree (Atom.value sliders)).eval).filter Float.isFinite ∧
      (substitute text sliders).2 = sum.names.foldl Sliders.require sliders := by
  have hspaced := Text.spaced_words text
  rw [hwords] at hspaced
  have hsub := substituted hwf hspaced
  unfold substitute
  refine ⟨?_, hsub.sliders_eq⟩
  have hpercent : '%' ∉ (substituteAfter [] text sliders).1 := fun hmem =>
    absurd (hsub.arithmetic _ hmem) (by decide)
  have hwrites : Writes (substituteAfter [] text sliders).1 (sum.tree (Atom.value sliders)) :=
    ⟨_, hsub.lexes, sum.valued (Atom.value sliders), sum.tokens_valued _, sum.tree_valued _⟩
  have hne : (substituteAfter [] text sliders).1 ≠ [] := by
    intro hnil
    have hlexes := tokenize_of_lexes hsub.lexes
    rw [hnil] at hlexes
    have htokens := Except.ok.inj hlexes
    exact sum.lexemes_ne_nil (List.map_eq_nil_iff.1 htokens.symm)
  rw [expandPercentages_of_not_mem hpercent]
  unfold evalArithmetic
  rw [parse_of_writes hwrites]
  have hall : (substituteAfter [] text sliders).1.all isArithmeticChar = true :=
    List.all_eq_true.2 hsub.arithmetic
  simp [hne, hall, Option.filter]

/-- What a field of words does to sliders and the value that it has. -/
theorem evalField_of_words {sliders : Sliders} (hwf : sliders.WellFormed) {raw : String}
    {sum : Phrase Atom .sum} (hwords : Text.words raw.toList = sum.lexemes.map Lexeme.text) :
    evalField raw sliders =
      ((some (sum.tree (Atom.value sliders)).eval).filter Float.isFinite,
        sum.names.foldl Sliders.require sliders) := by
  have htrimmed : Text.words (Text.trim raw.toList) = sum.lexemes.map Lexeme.text := by
    rw [Text.words_trim, hwords]
  have hspaced := Text.spaced_words (Text.trim raw.toList)
  rw [htrimmed] at hspaced
  have hne : Text.trim raw.toList ≠ [] := by
    intro hnil
    rw [hnil] at htrimmed
    exact sum.lexemes_ne_nil (List.map_eq_nil_iff.1 htrimmed.symm)
  have hpercent : '%' ∉ Text.trim raw.toList := by
    intro hmem
    rcases hspaced.blank_or_mem hmem with hblank | ⟨word, hword, hmem⟩
    · exact absurd hblank (by decide)
    · obtain ⟨lexeme, -, rfl⟩ := List.mem_map.1 hword
      exact lexeme.percent_not_mem hmem
  unfold evalField
  dsimp only
  rw [if_neg (by simpa using hne), readPercentage_eq_none hpercent]
  -- A plain number is not substituted into; everything else is.
  cases hplain : isPlainNumber (Text.trim raw.toList) with
  | true =>
    obtain ⟨hread, hnames⟩ := evalField_of_isPlainNumber htrimmed hne hplain sliders
    rw [hread, hnames]
    rfl
  | false =>
    obtain ⟨hvalue, hsliders⟩ := evalArithmetic_substitute hwf htrimmed
    rw [if_neg Bool.false_ne_true]
    dsimp only
    rw [hvalue, hsliders]

/-- A name has no blanks. -/
theorem Name.not_isBlank (n : Name) {c : Char} (h : c ∈ n.text) : Text.isBlank c = false := by
  by_contra hblank
  have hname := n.isNameChar_of_mem h
  rw [isNameChar_of_isBlank (by simpa using hblank)] at hname
  exact Bool.noConfusion hname

/-- So nothing is trimmed off a name. -/
theorem trimmed_name (n : Name) : Text.trimmed n.string = n.string := by
  unfold Text.trimmed Name.string
  rw [String.toList_ofList, Text.trim_of_not_isBlank fun c hc => n.not_isBlank hc]

/-- Every name is accepted but the reserved one. -/
theorem accepts_name (n : Name) :
    Sliders.accepts n.string = (Slider.keyOf n.string != Slider.reservedKey) := by
  have hblank : Text.isBlankText n.string = false := by
    unfold Text.isBlankText Name.string
    rw [String.toList_ofList]
    simp [Name.text, show Text.isBlank n.first = false from n.not_isBlank List.mem_cons_self]
  unfold Sliders.accepts
  rw [hblank, Bool.not_false, Bool.true_and]

/-- The names of a phrase are written as names. -/
theorem Phrase.exists_name_of_mem {category : Category} {phrase : Phrase Atom category}
    {name : String} (h : name ∈ phrase.names) : ∃ n : Name, n.string = name := by
  obtain ⟨lexeme, -, hname⟩ := List.mem_filterMap.1 h
  rcases lexeme with (n | n) | m
  · cases hname
  · exact ⟨n, Option.some.inj hname⟩
  · cases hname

/-- Writing values into the text of a formula is evaluating its tree with the sliders as the
environment: a field whose words are those of a phrase over numerals and names has the value of the
tree in which each name denotes the value of its slider, if that is finite. Afterwards the sliders
of the names in it are required, and new sliders stand at the initial value; the reserved name has
no slider, and no other slider changes. All sliders that come from the empty ones by setting,
requiring and forgetting are well formed. -/
theorem evalField_eq_environment_value {sliders : Sliders} (hwf : sliders.WellFormed) {raw : String}
    {sum : Phrase Atom .sum} (hwords : Text.words raw.toList = sum.lexemes.map Lexeme.text) :
    (evalField raw sliders).1 =
        (if (sum.tree (Atom.value sliders)).eval.isFinite then
          some (sum.tree (Atom.value sliders)).eval
        else none) ∧
      ∀ key, (evalField raw sliders).2.find? key =
        match sum.names.find? fun name =>
          Slider.keyOf name != Slider.reservedKey && Slider.keyOf name == key with
        | some name =>
          some { (sliders.find? key).getD ⟨key, name, Slider.initial, false⟩ with required := true }
        | none => sliders.find? key := by
  rw [evalField_of_words hwf hwords]
  refine ⟨by simp [Option.filter], fun key => ?_⟩
  have hsame : (sum.names.find? fun name => Sliders.accepts name && Slider.keyOf name == key) =
      sum.names.find? fun name =>
        Slider.keyOf name != Slider.reservedKey && Slider.keyOf name == key := by
    apply List.find?_congr
    intro name hname
    obtain ⟨n, rfl⟩ := Phrase.exists_name_of_mem hname
    rw [accepts_name]
  rw [Sliders.find?_foldl_require, hsame]
  cases hfind : sum.names.find? fun name =>
      Slider.keyOf name != Slider.reservedKey && Slider.keyOf name == key with
  | none => rfl
  | some name =>
    obtain ⟨n, rfl⟩ := Phrase.exists_name_of_mem (List.mem_of_find?_eq_some hfind)
    dsimp only
    rw [trimmed_name]

/-- Twice a radius and one tile, as a phrase. -/
def doubledRadius : Phrase Atom .sum :=
  let two : Numeral := ⟨['2'], [], by decide, List.all_eq_true.1 (by decide), by simp⟩
  let radius : Name := ⟨'R', ['A', 'D', 'I', 'U', 'S'], by decide, List.all_eq_true.1 (by decide)⟩
  let size : Name := ⟨'s', ['i', 'z', 'e'], by decide, List.all_eq_true.1 (by decide)⟩
  .summed
    (.term (.scaled (.single (.plain (.atom (.numeral two)))) .times
      (.plain (.atom (.name radius)))))
    .plus (.single (.plain (.atom (.name size))))

/-- A radius of three tiles, seen under another spelling. -/
def threeTiles : Sliders :=
  ⟨[⟨"radius", "Radius", 3, false⟩]⟩

/-- Twice the radius and the size, in a formula with odd blanks and capitals: seven, and the radius
alone is required. -/
theorem evalField_eq_environment_value_example :
    threeTiles.WellFormed ∧
      Text.words " 2 *  RADIUS + size".toList = doubledRadius.lexemes.map Lexeme.text ∧
      (evalField " 2 *  RADIUS + size" threeTiles).1 = some 7 ∧
      (evalField " 2 *  RADIUS + size" threeTiles).2.find? "radius" =
        some ⟨"radius", "Radius", 3, true⟩ ∧
      (evalField " 2 *  RADIUS + size" threeTiles).2.find? "size" = none := by
  have hwf : threeTiles.WellFormed := by
    refine ⟨by decide, ?_⟩
    intro e he
    obtain rfl := List.mem_singleton.1 he
    exact ⟨by decide +kernel, by decide +kernel, by decide⟩
  have hwords : Text.words " 2 *  RADIUS + size".toList =
      doubledRadius.lexemes.map Lexeme.text := by
    decide +kernel
  obtain ⟨hvalue, hsliders⟩ := evalField_eq_environment_value hwf hwords
  refine ⟨hwf, hwords, ?_, ?_, ?_⟩
  · rw [hvalue]
    decide +kernel
  · rw [hsliders]
    decide +kernel
  · rw [hsliders]
    decide +kernel

end Reticle.Formula
