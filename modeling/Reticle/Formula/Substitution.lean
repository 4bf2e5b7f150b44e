import Reticle.Formula.Parser
import Reticle.Formula.Slider
import Reticle.Number.Shortest

/-!
# Numeric fields

A numeric field is a percentage, a plain number, or a formula over slider names. Slider values are
written into the text before it is parsed, so that the parser only ever sees numbers and
operators. A field that is no formula still counts if a whole number can be found in it.
-/

namespace Reticle.Formula

/-! ## Numerals -/

/-- The numeral at the start of a text, digits with an optional fraction, and the text after it. -/
def takeNumeral? (text : List Char) : Option (List Char × List Char) :=
  let whole := text.takeWhile Char.isDigit
  let rest := text.dropWhile Char.isDigit
  if whole.isEmpty then none
  else
    match rest with
    | '.' :: after =>
      let fraction := after.takeWhile Char.isDigit
      if fraction.isEmpty then some (whole, rest)
      else some (whole ++ '.' :: fraction, after.dropWhile Char.isDigit)
    | _ => some (whole, rest)

/-- A numeral is taken off the front of the text and nothing is lost: the text is the numeral
followed by the rest. -/
theorem eq_append_of_takeNumeral? {text numeral rest : List Char}
    (h : takeNumeral? text = some (numeral, rest)) : text = numeral ++ rest := by
  have split := List.takeWhile_append_dropWhile (p := Char.isDigit) (l := text)
  simp only [takeNumeral?] at h
  split at h
  · simp at h
  · split at h
    · next after hr =>
      have inner := List.takeWhile_append_dropWhile (p := Char.isDigit) (l := after)
      split at h
      · simp_all
      · simp only [Option.some.injEq, Prod.mk.injEq] at h
        rw [← h.1, ← h.2, List.append_assoc, List.cons_append, inner, ← hr, split]
    · simp only [Option.some.injEq, Prod.mk.injEq] at h
      rw [← h.1, ← h.2, split]

/-- The numeral of a percentage at the start of a text, and the text after the percent sign. -/
def takePercent? (text : List Char) : Option (List Char × List Char) :=
  match takeNumeral? text with
  | some (numeral, '%' :: rest) => some (numeral, rest)
  | _ => none

/-- Taking a percentage shortens the text, so the scan ends. -/
theorem length_lt_of_takePercent? {text numeral rest : List Char}
    (h : takePercent? text = some (numeral, rest)) : rest.length < text.length := by
  simp only [takePercent?] at h
  split at h
  · next n r hn =>
    have := congrArg List.length (eq_append_of_takeNumeral? hn)
    simp only [Option.some.injEq, Prod.mk.injEq] at h
    obtain ⟨rfl, rfl⟩ := h
    simp only [List.length_append, List.length_cons] at this
    omega
  · simp at h

/-! ## Literal fields -/

/-- A field that is a percentage and nothing else: an optional minus sign, a numeral and a percent
sign. -/
def readPercentage (text : List Char) : Option Float :=
  let (sign, rest) := if text.head? = some '-' then (['-'], text.drop 1) else ([], text)
  match takePercent? rest with
  | some (numeral, []) => (Number.readNumber (sign ++ numeral)).map (· / 100)
  | _ => none

/-- Whether a field is a plain number: an optional sign and a numeral. -/
def isPlainNumber (text : List Char) : Bool :=
  let rest := if text.head? = some '-' ∨ text.head? = some '+' then text.drop 1 else text
  match takeNumeral? rest with
  | some (_, []) => true
  | _ => false

/-! ## Writing values into the text -/

/-- Whether a character can begin a slider name in a formula. -/
def isNameStart (c : Char) : Bool :=
  c.isAlpha || c == '_'

/-- Whether a character can continue a slider name in a formula. -/
def isNameChar (c : Char) : Bool :=
  isNameStart c || c.isDigit

/-- The value of a name as text; no name, no text. -/
def valueText (name : List Char) (sliders : Sliders) : List Char × Sliders :=
  if name.isEmpty then ([], sliders)
  else
    let (value, sliders) := sliders.resolve (.ofList name)
    ((toString value).toList, sliders)

/-- A text that continues a name, with every name replaced by its value and required. -/
def substituteAfter (name : List Char) : List Char → Sliders → List Char × Sliders
  | [], sliders => valueText name sliders
  | c :: rest, sliders =>
    if if name.isEmpty then isNameStart c else isNameChar c then
      substituteAfter (name ++ [c]) rest sliders
    else
      let (value, sliders) := valueText name sliders
      let (after, sliders) := substituteAfter [] rest sliders
      (value ++ c :: after, sliders)

/-- A text with every name replaced by its value and required. -/
def substitute (text : List Char) (sliders : Sliders) : List Char × Sliders :=
  substituteAfter [] text sliders

/-- A text with every percentage in it replaced by its value. -/
def expandPercentages (text : List Char) : List Char :=
  match h : takePercent? text with
  | some (numeral, rest) =>
    have : rest.length < text.length := length_lt_of_takePercent? h
    match Number.readPlain numeral with
    | some value => (Number.text (value / 100)).toList ++ expandPercentages rest
    | none => numeral ++ '%' :: expandPercentages rest
  | none =>
    match text with
    | [] => []
    | c :: rest => c :: expandPercentages rest
termination_by text.length

/-- Whether a character can be part of a formula without names. -/
def isArithmeticChar (c : Char) : Bool :=
  c.isDigit || "+-*/().".toList.contains c || Text.isBlank c

/-- The value of a formula without names, if it has a finite one. -/
def evalArithmetic (text : List Char) : Option Float :=
  if text.isEmpty || !text.all isArithmeticChar then none
  else
    match parse text with
    | .ok expr => if expr.eval.isFinite then some expr.eval else none
    | .error _ => none

/-! ## Fields -/

/-- The value of a field: a percentage is its hundredth part, a plain number is itself, and
anything else is a formula in which each name stands for its slider. Names are required as a side
effect, whether or not the formula has a value. -/
def evalField (raw : String) (sliders : Sliders) : Option Float × Sliders :=
  let text := Text.trim raw.toList
  if text.isEmpty then (none, sliders)
  else
    match readPercentage text with
    | some value => (some value, sliders)
    | none =>
      if isPlainNumber text then ((Number.readNumber text).filter Float.isFinite, sliders)
      else
        let (substituted, sliders) := substitute text sliders
        (evalArithmetic (expandPercentages substituted), sliders)

/-- The first run of digits in a text, with the minus sign directly before it. -/
def firstInteger? : List Char → Option (List Char)
  | [] => none
  | c :: rest =>
    if Text.isAnyDigit c then some (c :: rest.takeWhile Text.isAnyDigit)
    else if c = '-' ∧ rest.head?.any Text.isAnyDigit then
      some ('-' :: rest.takeWhile Text.isAnyDigit)
    else firstInteger? rest

/-- The first whole number in a text, if it is written in ASCII digits and fits in 64 bits. -/
def firstNumber (raw : String) : Option Float := do
  let n ← Number.readInteger (← firstInteger? raw.toList)
  if -0x8000000000000000 ≤ n ∧ n < 0x8000000000000000 then some (Float.ofInt n) else none

/-- The value of a field, or else the first whole number in it. -/
def numberFrom (raw : String) (sliders : Sliders) : Option Float × Sliders :=
  match evalField raw sliders with
  | (some value, sliders) => (some value, sliders)
  | (none, sliders) => (firstNumber raw, sliders)

end Reticle.Formula
