import Reticle.Scenario.AnchoredArea

/-!
# Aiming along directions

What the fields of a directional rule say, before it is settled whether the actor strikes from
where it stands or dashes along the direction.
-/

namespace Reticle

/-- The fields of a directional rule. -/
structure Aiming where
  /-- The steps that can be selected; both bounds are at least one. -/
  selection : Bounds
  /-- Whether the rule gives a range. -/
  hasRange : Bool
  mode : AreaMode
  areaMin : Option Float
  areaMax : Option Float
  areaMinLabel : Option String
  areaMaxLabel : Option String
  /-- The radius of the area around a selected cell, zero if there is none. -/
  splash : Float
  offsets : List Offset
  turning : Bool
  sparesActor : Bool

namespace Aiming

/-- Reads the fields. -/
def read : FieldReader Aiming := do
  let minRange ← FieldReader.number "min_range"
  let maxRange ← FieldReader.number "max_range"
  let requested := Bounds.resolve minRange maxRange 1 1
  let least := Number.larger requested.min 1
  let mode := (← FieldReader.keyword AreaMode.ofName? "aoe_mode").getD .line
  let splash ← FieldReader.firstNumber ["aoe_radius", "max_aoe_radius", "max_area"]
  let rule ← FieldReader.rule
  return {
    selection := ⟨least, Number.larger requested.max least⟩
    hasRange := minRange.isSome || maxRange.isSome
    mode
    areaMin := ← FieldReader.number "min_aoe"
    areaMax := ← FieldReader.number "max_aoe"
    areaMinLabel := rule.label? "min_aoe"
    areaMaxLabel := rule.label? "max_aoe"
    splash := Number.nonNegative (splash.getD 0)
    offsets := if mode = .custom then rule.areaOffsets else []
    turning := !rule.flag "dont_orient_aoe"
    sparesActor := rule.flag "aoe_excludes_self" }

/-- The bounds of the area, with defaults for what the rule does not give. -/
def areaBounds (a : Aiming) (defaultMin defaultMax : Float) : Bounds :=
  .resolve a.areaMin a.areaMax defaultMin defaultMax

/-- The mode that is simulated: without offsets a custom area is a line. -/
def effectiveMode (a : Aiming) : AreaMode :=
  if a.mode = .custom ∧ a.offsets.isEmpty then .line else a.mode

/-- The listed offsets as a shape. -/
def customShape (a : Aiming) : Shape :=
  .custom a.offsets a.turning

/-- The bounds of an area that is cast from the actor: by default as far as can be selected. -/
def reach (a : Aiming) : Bounds :=
  a.areaBounds 1 a.selection.max

/-- The shape of an area around a selected cell, for the modes that are not cast from the actor. -/
def placedShape (a : Aiming) (mode : AreaMode) : Shape :=
  .ofMode (some mode) (a.areaBounds 0 0)

/-- The fact about such a shape. -/
def placedFact (a : Aiming) (shape : Shape) : List String :=
  if shape.isEmpty then []
  else
    let bounds := a.areaBounds 0 0
    ["Splash " ++ Summary.range a.areaMinLabel a.areaMaxLabel bounds.min bounds.max]

/-- The fact about selectable steps. -/
def rangeFact (selection : Bounds) : String :=
  "Range " ++ Summary.steps selection.min selection.max

/-- The fact about a radius. -/
def splashFact (radius : Float) : String :=
  "Splash " ++ Summary.number radius

/-- The fact about a line or cone. -/
def lengthFact (b : Bounds) : String :=
  "Line length " ++ Summary.steps b.nonNegative.min b.nonNegative.max

end Aiming

/-- The first element of a list on which a key is greatest. -/
def firstGreatest {α : Type} (key : α → Int) (xs : List α) : Option α :=
  xs.foldl
    (fun best x =>
      match best with
      | some b => if key b < key x then some x else best
      | none => some x)
    none

/-- How well a direction fits a cell, seen from the actor. -/
def Grid.fit (g : Grid) (c : Cell) (d : Direction) : Int :=
  d.alignmentRank (c.row - g.center.row) (c.col - g.center.col)

end Reticle
