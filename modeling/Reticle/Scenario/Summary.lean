import Reticle.Number.Shortest
import Reticle.Text.Split

/-!
# Summaries

The one-line description of a scenario: its mode and the facts worth knowing, set off by dots.
-/

namespace Reticle.Summary

/-- A number as it is shown; zero has no sign. -/
def number (value : Float) : String :=
  Number.text (value + 0)

/-- Two ends of a range, or the one value that both read as. -/
def joinEnds (low high : String) : String :=
  if low = high then low else low ++ "–" ++ high

/-- A range of numbers. -/
def steps (min max : Float) : String :=
  joinEnds (number min) (number max)

/-- A range in which each end reads as the rule wrote it, if it did. -/
def range (minLabel maxLabel : Option String) (min max : Float) : String :=
  joinEnds (minLabel.getD (number min)) (maxLabel.getD (number max))

/-- A mode and the facts about it. -/
def line (mode : String) (facts : List String) : String :=
  Text.join " · " (("Mode: " ++ mode) :: facts)

end Reticle.Summary
