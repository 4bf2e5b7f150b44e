/-!
# Doubles as exact numbers

A double is read as an exact rational, one of the two infinities, or no number at all. Rounding to
whole numbers, comparison and the choice of the larger or smaller of two doubles are defined on
that reading, so that they can be reasoned about over the rationals.
-/

namespace Reticle.Number

/-! ## Decoding -/

/-- A finite double without its sign, as `significand * 2 ^ exponent`. -/
structure Magnitude where
  significand : Nat
  exponent : Int
  /-- The double below lies half as far away as the one above. -/
  narrowBelow : Bool
deriving DecidableEq, Repr

/-- The exact value of a magnitude. -/
def Magnitude.value (m : Magnitude) : Rat :=
  match m.exponent with
  | .ofNat k => ((m.significand * Nat.pow 2 k : Nat) : Rat)
  | .negSucc k => mkRat m.significand (Nat.pow 2 (k + 1))

/-- The sign bit of a double. -/
def isNegative (x : Float) : Bool :=
  x.toBits >>> 63 == 1

/-- The biased exponent of a double. -/
def biasedExponent (x : Float) : Nat :=
  ((x.toBits >>> 52) &&& 0x7FF).toNat

/-- The stored fraction of a double. -/
def fractionBits (x : Float) : Nat :=
  (x.toBits &&& 0xFFFFFFFFFFFFF).toNat

/-- The magnitude of a finite double. -/
def magnitude (x : Float) : Magnitude :=
  if biasedExponent x = 0 then ⟨fractionBits x, -1074, false⟩
  else ⟨0x10000000000000 + fractionBits x, (biasedExponent x : Int) - 1075,
    fractionBits x == 0 && biasedExponent x != 1⟩

/-- What a double stands for. -/
inductive Extended
  /-- No number. -/
  | undefined
  /-- Below every number. -/
  | bottom
  /-- A number. -/
  | finite (q : Rat)
  /-- Above every number. -/
  | top
deriving DecidableEq

/-- The exact reading of a double. -/
def exact (x : Float) : Extended :=
  if biasedExponent x = 0x7FF then
    if fractionBits x ≠ 0 then .undefined else if isNegative x then .bottom else .top
  else
    .finite (if isNegative x then -(magnitude x).value else (magnitude x).value)

/-! ## Comparison -/

namespace Extended

/-- Whether a reading is below another; nothing is below or above an undefined one. -/
def isBelow : Extended → Extended → Bool
  | bottom, finite _ | bottom, top | finite _, top => true
  | finite a, finite b => decide (a < b)
  | _, _ => false

/-- Whether a reading is at most a whole number. -/
def isAtMost : Extended → Int → Bool
  | bottom, _ => true
  | finite q, n => decide (q ≤ n)
  | _, _ => false

/-- Whether a reading is at least a whole number. -/
def isAtLeast : Extended → Int → Bool
  | top, _ => true
  | finite q, n => decide ((n : Rat) ≤ q)
  | _, _ => false

/-- The smallest whole number that a coordinate can have. -/
def coordinateMin : Int :=
  -0x80000000

/-- The largest whole number that a coordinate can have. -/
def coordinateMax : Int :=
  0x7FFFFFFF

/-- A whole number, moved to the nearest end of the range of coordinates if it lies outside. -/
def clampCoordinate (n : Int) : Int :=
  max coordinateMin (min n coordinateMax)

/-- The coordinate at or below a reading; an undefined reading counts as zero. -/
def floor : Extended → Int
  | undefined => 0
  | bottom => coordinateMin
  | finite q => clampCoordinate q.floor
  | top => coordinateMax

/-- The coordinate at or above a reading; an undefined reading counts as zero. -/
def ceil : Extended → Int
  | undefined => 0
  | bottom => coordinateMin
  | finite q => clampCoordinate q.ceil
  | top => coordinateMax

end Extended

/-- Whether a double stands for zero, of either sign. -/
def isZero (x : Float) : Bool :=
  exact x == .finite 0

/-- Whether a double is greater than zero. -/
def isPositive (x : Float) : Bool :=
  (Extended.finite 0).isBelow (exact x)

/-- The larger of two doubles, the first of two equal ones; an undefined one yields to the
other. -/
def larger (x y : Float) : Float :=
  if exact x = .undefined ∨ (exact x).isBelow (exact y) then y else x

/-- The smaller of two doubles, the first of two equal ones; an undefined one yields to the
other. -/
def smaller (x y : Float) : Float :=
  if exact x = .undefined ∨ (exact y).isBelow (exact x) then y else x

/-- A double, with zero in place of a negative or undefined one. -/
def nonNegative (x : Float) : Float :=
  larger x 0

/-- The coordinate at or below a double. -/
def floor (x : Float) : Int :=
  (exact x).floor

/-- The coordinate at or above a double. -/
def ceil (x : Float) : Int :=
  (exact x).ceil

/-- The coordinate nearest to a double; a half goes up. -/
def round (x : Float) : Int :=
  floor (x + 0.5)

end Reticle.Number
