import Std.Data.HashMap
import Std.Data.TreeSet
import Reticle.Formula.Slider

/-!
# The registry of sliders

Sliders as the tables that store them: every lower-case name leads to the spelling under which it
was first seen, every such spelling has a value, and the spellings to which the current rule refers
form a set. The reserved name stands in both tables from the start and is never in the set.
-/

namespace Reticle

/-- The tables of all sliders seen so far. -/
structure Registry where
  /-- The first spelling of every lower-case name. -/
  canonical : Std.HashMap String String
  /-- The value of every first spelling. -/
  values : Std.HashMap String Int
  /-- The first spellings to which the current rule refers. -/
  required : Std.TreeSet String

namespace Registry

/-- Nothing has been seen but the reserved name. -/
def start : Registry where
  canonical := {(Slider.reservedKey, Slider.reservedKey)}
  values := {(Slider.reservedKey, Slider.reservedValue)}
  required := ∅

/-- The first spelling of a key. A key that was never seen is entered under the given spelling. -/
def enter (r : Registry) (key spelling : String) : String × Registry :=
  (r.canonical.getD key spelling, { r with canonical := r.canonical.insertIfNew key spelling })

/-- The first spelling of a name, which is marked as one that the current rule refers to. A blank
name has none, and the reserved name is not marked. -/
def register? (r : Registry) (name : String) : Option (String × Registry) :=
  if Text.isBlankText name then none
  else if Slider.keyOf name == Slider.reservedKey then some (Slider.reservedKey, r)
  else
    let (spelling, r) := r.enter (Slider.keyOf name) (Text.trimmed name)
    some (spelling, { r with
      values := r.values.insertIfNew spelling Slider.initial
      required := r.required.insert spelling })

/-- The value of a name for the current rule, and the registry with that name registered. -/
def resolve (r : Registry) (name : String) : Int × Registry :=
  match r.register? name with
  | some (spelling, r) => (r.values.getD spelling Slider.initial, r)
  | none => (Slider.initial, r)

/-- Sets a slider. The stored value is returned; a blank or reserved name is refused. -/
def set? (r : Registry) (name : String) (value : Int) : Option (Int × Registry) :=
  if Text.isBlankText name || Slider.keyOf name == Slider.reservedKey then none
  else
    let (spelling, r) := r.enter (Slider.keyOf name) (Text.trimmed name)
    let stored := Slider.clamp value
    some (stored, { r with values := r.values.insert spelling stored })

/-- The value of a name, if it is in the tables. -/
def value? (r : Registry) (name : String) : Option Int := do
  r.values[← r.canonical[Slider.keyOf name]?]?

/-- Whether the current rule refers to a name. -/
def isRequired (r : Registry) (name : String) : Bool :=
  (r.canonical[Slider.keyOf name]?).any (r.required.contains ·)

/-- The registry with no name required; values are kept. -/
def forgetRequired (r : Registry) : Registry :=
  { r with required := ∅ }

/-- Whether one name is listed before another: by lower-case names, then by spellings. -/
def listedBefore (p q : String × Int) : Bool :=
  decide (Text.lowercase p.1 < Text.lowercase q.1) ||
    (Text.lowercase p.1 == Text.lowercase q.1 && decide (p.1 ≤ q.1))

/-- The required names with their values, in order. -/
def adjustable (r : Registry) : List (String × Int) :=
  ((r.required.toList.filter fun name => !Text.eqIgnoringCase name Slider.reservedKey).map
    fun name => (name, r.values.getD name Slider.initial)).mergeSort listedBefore

end Registry

end Reticle
