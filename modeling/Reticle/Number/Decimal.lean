import Reticle.Text.Blank
import Reticle.Text.Digit

/-!
# Decimal numbers

Reading decimals from text, correctly rounded to doubles. A decimal is digits with at most one
point among or around them; the long form adds a sign, a power of ten, and the names of the
infinities and of the undefined value.
-/

namespace Reticle.Number

/-- The infinite double. -/
def infinity : Float :=
  .ofBits 0x7FF0000000000000

/-- The undefined double. -/
def undefinedNumber : Float :=
  .ofBits 0x7FF8000000000000

/-- The parts of an unsigned decimal: its digits before and after the point, and a power of ten. -/
structure Decimal where
  whole : List Char
  fraction : List Char
  exponent : Int
deriving DecidableEq, Repr

/-- The double nearest to a decimal. Powers of ten that are certain to leave the range of doubles
are not computed. -/
def Decimal.toFloat (d : Decimal) : Float :=
  let digits := (d.whole ++ d.fraction).dropWhile (· == '0')
  let shift := d.exponent - d.fraction.length
  let places := shift + digits.length
  if digits.isEmpty || places < -330 then 0
  else if 310 < places then infinity
  else .ofScientific (Text.numeral digits) (shift < 0) shift.natAbs

/-- The unsigned decimal at the start of a text, without a power of ten, and the text after it. At
least one digit is needed, before or after the point. -/
def scanDecimal (text : List Char) : Option (Decimal × List Char) :=
  let whole := text.takeWhile Char.isDigit
  let rest := text.dropWhile Char.isDigit
  match rest with
  | '.' :: after =>
    let fraction := after.takeWhile Char.isDigit
    if whole.isEmpty && fraction.isEmpty then none
    else some (⟨whole, fraction, 0⟩, after.dropWhile Char.isDigit)
  | _ => if whole.isEmpty then none else some (⟨whole, [], 0⟩, rest)

/-- A whole text read as an unsigned decimal without a power of ten. -/
def readPlain (text : List Char) : Option Float :=
  match scanDecimal text with
  | some (d, []) => some d.toFloat
  | _ => none

/-- The whole number written with an optional sign and ASCII digits. -/
def readInteger (text : List Char) : Option Int :=
  let (negative, digits) :=
    match text with
    | '-' :: digits => (true, digits)
    | '+' :: digits => (false, digits)
    | digits => (false, digits)
  if digits.isEmpty || !digits.all Char.isDigit then none
  else some (if negative then -(Text.numeral digits : Int) else Text.numeral digits)

/-- A power of ten: nothing, or `e` and a whole number. -/
def readExponent : List Char → Option Int
  | [] => some 0
  | mark :: rest => if mark.toLower = 'e' then readInteger rest else none

/-- A whole text read as an unsigned number: a decimal with an optional power of ten, or one of the
names of the infinity and the undefined value, in any case of letters. -/
def readUnsigned (text : List Char) : Option Float :=
  let name := text.map Char.toLower
  if name = ['i', 'n', 'f'] ∨ name = ['i', 'n', 'f', 'i', 'n', 'i', 't', 'y'] then some infinity
  else if name = ['n', 'a', 'n'] then some undefinedNumber
  else do
    let (d, rest) ← scanDecimal text
    let exponent ← readExponent rest
    return { d with exponent }.toFloat

/-- A whole text read as a number with an optional sign. -/
def readNumber : List Char → Option Float
  | '-' :: rest => (readUnsigned rest).map (- ·)
  | '+' :: rest => readUnsigned rest
  | text => readUnsigned text

/-- The longest start of a text that reads as a number, if that number is finite. Blanks around the
text do not count. -/
def readLeading (text : List Char) : Option Float :=
  let text := Text.trim text
  let starts := (List.range text.length).reverse.map fun n => text.take (n + 1)
  (starts.findSome? readNumber).filter Float.isFinite

end Reticle.Number
