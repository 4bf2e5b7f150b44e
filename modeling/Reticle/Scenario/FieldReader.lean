import Reticle.Formula.Substitution
import Reticle.Rule.Diagnosis

/-!
# Reading fields

A scenario is built from the fields of one rule. Reading a number can require sliders, and reading
a keyword can give cause for a warning; both are collected while the fields are read.
-/

namespace Reticle

/-- What reading fields leaves behind. -/
structure ReadState where
  sliders : Sliders
  /-- The warnings in the order in which the fields were read. -/
  warnings : List Warning

/-- Reading fields of one rule. -/
abbrev FieldReader := ReaderT Rule (StateM ReadState)

namespace FieldReader

/-- The rule whose fields are read. -/
def rule : FieldReader Rule := fun rule state =>
  (rule, state)

/-- The number in a field; a list has none. -/
def number (key : String) : FieldReader (Option Float) := fun rule state =>
  match rule.scalar? key with
  | none => (none, state)
  | some raw =>
    let (value, sliders) := Formula.numberFrom raw state.sliders
    (value, { state with sliders })

/-- The first number among several fields; the fields after it are not read. -/
def firstNumber : List String → FieldReader (Option Float)
  | [] => return none
  | key :: keys => do
    match ← number key with
    | some value => return some value
    | none => firstNumber keys

/-- The keyword in a field. An unknown one gives cause for a warning and counts as absent. -/
def keyword {α : Type} (ofName? : String → Option α) (key : String) : FieldReader (Option α) :=
  fun rule state =>
    match (rule.keyword? key).filter (! ·.isEmpty) with
    | none => (none, state)
    | some word =>
      match ofName? word with
      | some value => (some value, state)
      | none =>
        (none, { state with warnings := state.warnings ++ [.unrecognizedValue key word] })

end FieldReader

end Reticle
