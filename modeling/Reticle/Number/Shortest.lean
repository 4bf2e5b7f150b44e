import Reticle.Number.Exact

/-!
# The shortest decimal of a double

`shortest` finds the decimal with the fewest digits that reads back as a given double, and among
those of equal length the nearest one; a tie goes to the larger. `text` writes it in full, without
a power of ten: whole numbers without a point, fractions with a digit on each side of it.
-/

namespace Reticle.Number

/-- The number `digits * 10 ^ exponent`. -/
structure Scaled where
  digits : Nat
  exponent : Int
deriving DecidableEq, Repr

/-- Compares `a * 10 ^ i` with `n * 2 ^ j`. -/
def compareScaled (a : Nat) (i : Int) (n : Nat) (j : Int) : Ordering :=
  compare (a * Nat.pow 10 i.toNat * Nat.pow 2 (-j).toNat)
    (n * Nat.pow 2 j.toNat * Nat.pow 10 (-i).toNat)

/-- Whether a decimal lies among the numbers nearer to a double than to its neighbours. The two
halfway points belong to the double with the even significand. -/
def Magnitude.readsBack (m : Magnitude) (d : Scaled) : Bool :=
  let low := if m.narrowBelow then 4 * m.significand - 1 else 4 * m.significand - 2
  let high := 4 * m.significand + 2
  let closed := m.significand % 2 == 0
  let fromLow := compareScaled d.digits d.exponent low (m.exponent - 2)
  let fromHigh := compareScaled d.digits d.exponent high (m.exponent - 2)
  (fromLow == .gt || (closed && fromLow == .eq)) && (fromHigh == .lt || (closed && fromHigh == .eq))

/-- A magnitude as a quotient of natural numbers. -/
def Magnitude.quotient (m : Magnitude) : Nat × Nat :=
  (m.significand * Nat.pow 2 m.exponent.toNat, Nat.pow 2 (-m.exponent).toNat)

/-- The number of digits before the point; for a number below one, less the number of zeros after
it. -/
def Magnitude.places (m : Magnitude) : Int :=
  let (num, den) := m.quotient
  if den ≤ num then (Nat.toDigits 10 (num / den)).length
  else 1 - ((Nat.toDigits 10 (den / num)).length : Int)

/-- The nearer of the two neighbours on the grid of multiples of `10 ^ exponent` that reads back,
if one does; a tie goes to the upper one. -/
def Magnitude.onGrid? (m : Magnitude) (exponent : Int) : Option Scaled :=
  let (num, den) := m.quotient
  let num := num * Nat.pow 10 (-exponent).toNat
  let den := den * Nat.pow 10 exponent.toNat
  let lower : Scaled := ⟨num / den, exponent⟩
  let upper : Scaled := ⟨num / den + 1, exponent⟩
  match m.readsBack lower, m.readsBack upper with
  | true, true => some (if 2 * (num % den) < den then lower else upper)
  | true, false => some lower
  | false, true => some upper
  | false, false => none

/-- The decimal value of a magnitude, with all its digits. -/
def Magnitude.inFull (m : Magnitude) : Scaled :=
  ⟨m.significand * Nat.pow 2 m.exponent.toNat * Nat.pow 5 (-m.exponent).toNat, min m.exponent 0⟩

/-- The shortest decimal that reads back as a magnitude other than zero: the grids are tried from
coarse to fine, and the coarsest one holds the power of ten above the number. -/
def Magnitude.shortest (m : Magnitude) : Scaled :=
  let places := m.places
  ((List.range 18).findSome? fun (n : Nat) => m.onGrid? (places - n)).getD m.inFull

/-- A decimal written in full. -/
def Scaled.text (d : Scaled) : String :=
  let digits := Nat.toDigits 10 d.digits
  let point := digits.length + d.exponent
  if 0 ≤ d.exponent then
    .ofList (digits ++ List.replicate d.exponent.toNat '0')
  else if point ≤ 0 then
    .ofList ('0' :: '.' :: (List.replicate (-point).toNat '0' ++ digits))
  else
    .ofList (digits.take point.toNat ++ '.' :: digits.drop point.toNat)

/-- The written form of a double. -/
def text (x : Float) : String :=
  match exact x with
  | .undefined => "NaN"
  | .top => "inf"
  | .bottom => "-inf"
  | .finite q =>
    let sign := if isNegative x then "-" else ""
    sign ++ if q = 0 then "0" else (magnitude x).shortest.text

example : text 0.1 = "0.1" := by decide +kernel

example : text 100 = "100" := by decide +kernel

example : text 0.0000001 = "0.0000001" := by decide +kernel

example : text 2.98023223876953125e-8 = "0.000000029802322387695313" := by decide +kernel

end Reticle.Number
