import Reticle.Text.Blank
import Reticle.Text.Lowercase

/-!
# Sliders

The named whole-number variables that rules refer to. Names are told apart by their trimmed
lower-case form, and a slider keeps the spelling under which it was first seen. The name `size`
is reserved: it always has the value one and is not a slider.
-/

namespace Reticle

/-- A named variable with its value. -/
structure Slider where
  /-- The lower-case name. -/
  key : String
  /-- The name as it was first written. -/
  name : String
  value : Int
  /-- Whether the current rule refers to the slider. -/
  required : Bool
deriving DecidableEq, Repr

namespace Slider

/-- The least value of a slider. -/
def least : Int :=
  0

/-- The greatest value of a slider. -/
def greatest : Int :=
  10

/-- The value of a slider that was never set. -/
def initial : Int :=
  0

/-- A value, moved to the nearest end of the range of sliders if it lies outside. -/
def clamp (value : Int) : Int :=
  max least (min value greatest)

/-- The name that is no slider. -/
def reservedKey : String :=
  "size"

/-- The value of the reserved name. -/
def reservedValue : Int :=
  1

/-- What tells names apart. -/
def keyOf (name : String) : String :=
  Text.lowercase (Text.trimmed name)

end Slider

/-- All sliders seen so far, in the order in which they were first seen. -/
structure Sliders where
  entries : List Slider
deriving DecidableEq, Repr

namespace Sliders

/-- No slider has been seen. -/
def empty : Sliders :=
  ⟨[]⟩

/-- The slider of a key. -/
def find? (s : Sliders) (key : String) : Option Slider :=
  s.entries.find? (·.key == key)

/-- The sliders with one of them changed, which is added first if it was never seen. -/
def modify (s : Sliders) (key name : String) (change : Slider → Slider) : Sliders :=
  if (s.find? key).isSome then
    ⟨s.entries.map fun e => if e.key == key then change e else e⟩
  else ⟨s.entries ++ [change ⟨key, name, Slider.initial, false⟩]⟩

/-- Whether a name can belong to a slider: it is neither blank nor reserved. -/
def accepts (name : String) : Bool :=
  !Text.isBlankText name && Slider.keyOf name != Slider.reservedKey

/-- Sets a slider. The stored value is returned; a blank or reserved name is refused. -/
def set? (s : Sliders) (name : String) (value : Int) : Option (Int × Sliders) :=
  if accepts name then
    let stored := Slider.clamp value
    some (stored, s.modify (Slider.keyOf name) (Text.trimmed name) ({ · with value := stored }))
  else none

/-- The value of a name, if it is reserved or was seen before. -/
def value? (s : Sliders) (name : String) : Option Int :=
  if Slider.keyOf name == Slider.reservedKey then some Slider.reservedValue
  else (s.find? (Slider.keyOf name)).map (·.value)

/-- Marks a name as one that the current rule refers to. -/
def require (s : Sliders) (name : String) : Sliders :=
  if accepts name then
    s.modify (Slider.keyOf name) (Text.trimmed name) ({ · with required := true })
  else s

/-- The value of a name for the current rule, and the sliders with that name required. -/
def resolve (s : Sliders) (name : String) : Int × Sliders :=
  let s := s.require name
  ((s.value? name).getD Slider.initial, s)

/-- Whether the current rule refers to a name. -/
def isRequired (s : Sliders) (name : String) : Bool :=
  (s.find? (Slider.keyOf name)).any (·.required)

/-- The sliders with no name required; values are kept. -/
def forgetRequired (s : Sliders) : Sliders :=
  ⟨s.entries.map ({ · with required := false })⟩

/-- The required sliders with their values, in the order of their lower-case names. -/
def adjustable (s : Sliders) : List (String × Int) :=
  ((s.entries.filter (·.required)).mergeSort fun a b => decide (a.key ≤ b.key)).map
    fun e => (e.name, e.value)

end Sliders

end Reticle
