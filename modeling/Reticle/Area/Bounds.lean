import Reticle.Number.Exact

/-!
# Bounds

The least and greatest distance of a range or an area. Bounds need not be whole; the steps between
them are.
-/

namespace Reticle

/-- A least and a greatest distance. -/
structure Bounds where
  min : Float
  max : Float
deriving Repr

namespace Bounds

/-- Whether both bounds are zero. -/
def isZero (b : Bounds) : Bool :=
  Number.isZero b.min && Number.isZero b.max

/-- The bounds with zero in place of negative ones. -/
def nonNegative (b : Bounds) : Bounds :=
  ⟨Number.nonNegative b.min, Number.nonNegative b.max⟩

/-- Bounds from optional values. A missing minimum is the default one. A missing maximum is the
given minimum, or the default maximum if that is missing too. A maximum below the minimum is raised
to it. -/
def resolve (min max : Option Float) (defaultMin defaultMax : Float) : Bounds :=
  let least := min.getD defaultMin
  let greatest := max.getD (min.getD defaultMax)
  ⟨least, Number.larger greatest least⟩

end Bounds

/-- The whole numbers from `first` to `last`, both included. -/
def wholeNumbers (first last : Int) : List Int :=
  (List.range (last - first + 1).toNat).map fun (k : Nat) => first + k

/-- The list holds every whole number from the first to the last, both included. -/
theorem mem_wholeNumbers {first last n : Int} :
    n ∈ wholeNumbers first last ↔ first ≤ n ∧ n ≤ last := by
  simp only [wholeNumbers, List.mem_map, List.mem_range]
  constructor
  · rintro ⟨k, hk, rfl⟩
    omega
  · intro h
    exact ⟨(n - first).toNat, by omega, by omega⟩

/-- A range of step counts. -/
structure Steps where
  first : Int
  last : Int
deriving DecidableEq, Repr

namespace Steps

/-- The steps within bounds: from the minimum rounded up, but not below zero, to the maximum
rounded down, but not below the first step. -/
def ofBounds (b : Bounds) : Steps :=
  let first := Max.max 0 (Number.ceil b.min)
  ⟨first, Max.max first (Number.floor b.max)⟩

/-- The steps with both ends lowered to a limit. -/
def atMost (s : Steps) (limit : Int) : Steps :=
  ⟨Min.min s.first limit, Min.min s.last limit⟩

/-- The step counts in ascending order. -/
def toList (s : Steps) : List Int :=
  wholeNumbers s.first s.last

end Steps

end Reticle
