import Reticle.Area.Shape
import Reticle.Rule.Coordinates
import Reticle.Scenario.FieldReader
import Reticle.Scenario.Summary

/-!
# Areas around the chosen cell

How the fields of a rule describe an area that lies around the chosen cell. Listed offsets come
first, then the mode `all`, and then a pattern within the bounds of the area.
-/

namespace Reticle

/-- An area with the fact about it for the summary, if there is one. -/
structure AnchoredArea where
  area : Area
  fact : Option String

namespace AnchoredArea

/-- The fact about a shape within bounds. -/
def factOf (shape : Shape) (minLabel maxLabel : Option String) (bounds : Bounds) : Option String :=
  match shape with
  | .empty => none
  | .custom _ _ => some "Splash custom"
  | .everywhere => some "Splash all"
  | _ => some ("Splash " ++ Summary.range minLabel maxLabel bounds.min bounds.max)

/-- Reads the area. Where no crossing line is allowed, a band takes its place. -/
def read (mode : Option AreaMode) (allowCrossLine : Bool) : FieldReader AnchoredArea := do
  let rule ← FieldReader.rule
  let min ← FieldReader.number "min_aoe"
  let max ← FieldReader.number "max_aoe"
  let bounds := Bounds.resolve min max 0 0
  let offsets := if mode = some .custom then rule.areaOffsets else []
  let turning := !rule.flag "dont_orient_aoe"
  let shape :=
    if !offsets.isEmpty then .custom offsets turning
    else if mode = some .all then .everywhere
    else Shape.ofMode (mode.filter fun m => allowCrossLine || m != .perpendicular) bounds
  let fact := factOf shape (rule.label? "min_aoe") (rule.label? "max_aoe") bounds
  return ⟨⟨shape, rule.flag "aoe_excludes_self"⟩, fact⟩

end AnchoredArea

end Reticle
