import Reticle.Proofs.Reading
import Reticle.Proofs.SliderValues

/-!
# What fields are worth

Reading one field requires sliders, so that the next field is read from other sliders. The values
stay, though, and a field is worth the same from all sliders with given values. `FieldReader.Yields`
says what a reading gives under that reserve, and each reading of the model has its lemma.
-/

namespace Reticle

namespace Sliders

/-- Both sides have the given values. -/
theorem congruent_sameValues (given : Sliders) :
    Congruent (fun s t => s.SameValues given ∧ t.SameValues given) fun _ => True := by
  apply congruent_of_resolve
  rintro name s t ⟨hs, ht⟩
  refine ⟨(hs.trans ht.symm).fst_resolve name, ?_, ?_⟩
  · exact (sameValues_require s name).trans hs
  · exact (sameValues_require t name).trans ht

end Sliders

namespace Rule

/-- What a numeric field is worth. -/
def numberIn (rule : Rule) (given : Sliders) (key : String) : Option Float :=
  (rule.scalar? key).bind fun raw => (Formula.numberFrom raw given).1

/-- What the first readable field among several is worth. -/
def firstNumberIn (rule : Rule) (given : Sliders) (keys : List String) : Option Float :=
  keys.findSome? (rule.numberIn given)

/-- What a keyword field stands for, if its keyword is known. -/
def keywordIn {α : Type} (rule : Rule) (ofName? : String → Option α) (key : String) : Option α :=
  ((rule.keyword? key).filter (! ·.isEmpty)).bind ofName?

namespace SameField

variable {r r' : Rule} {key : String} (h : r.SameField r' key)
include h

/-- The number of a field depends on that field only. -/
theorem numberIn_eq {given : Sliders} : r.numberIn given key = r'.numberIn given key := by
  unfold numberIn
  rw [h.scalar?_eq]

/-- The keyword of a field depends on that field only. -/
theorem keywordIn_eq {α : Type} {ofName? : String → Option α} :
    r.keywordIn ofName? key = r'.keywordIn ofName? key := by
  unfold keywordIn
  rw [h.keyword?_eq]

end SameField

end Rule

namespace FieldReader

variable {given : Sliders} {rule : Rule} {α β : Type}

/-- From all sliders with the given values, reading gives a result with a property and keeps the
values. -/
def Yields (given : Sliders) (rule : Rule) (x : FieldReader α) (P : α → Prop) : Prop :=
  ∀ σ, σ.sliders.SameValues given →
    P (x rule σ).1 ∧ (x rule σ).2.sliders.SameValues given

/-- A result that reads nothing is what it is. -/
theorem Yields.pure {a : α} {P : α → Prop} (h : P a) : Yields given rule (Pure.pure a) P :=
  fun _ hσ => ⟨h, hσ⟩

/-- What is read first may be used by what is read after it. -/
theorem Yields.bind {x : FieldReader α} {f : α → FieldReader β} {P : α → Prop} {Q : β → Prop}
    (hx : Yields given rule x P) (hf : ∀ a, P a → Yields given rule (f a) Q) :
    Yields given rule (x >>= f) Q := by
  intro σ hσ
  obtain ⟨hresult, hkept⟩ := hx σ hσ
  exact hf _ hresult _ hkept

/-- The rule that is read is the rule at hand. -/
theorem yields_rule : Yields given rule FieldReader.rule (· = rule) :=
  fun _ hσ => ⟨rfl, hσ⟩

/-- A number that is read is the number of its field. -/
theorem yields_number (key : String) :
    Yields given rule (number key) (· = rule.numberIn given key) := by
  intro σ hσ
  unfold number Rule.numberIn
  cases rule.scalar? key with
  | none => exact ⟨rfl, hσ⟩
  | some raw =>
    obtain ⟨hvalue, hkept, -⟩ := (Formula.blind_numberFrom (Sliders.congruent_sameValues given)
      raw).same σ.sliders given trivial ⟨hσ, Sliders.SameValues.refl given⟩
    exact ⟨hvalue, hkept⟩

/-- The number read under one of several keys is that of the first which has one. -/
theorem yields_firstNumber (keys : List String) :
    Yields given rule (firstNumber keys) (· = rule.firstNumberIn given keys) := by
  unfold Rule.firstNumberIn
  induction keys with
  | nil => exact Yields.pure rfl
  | cons key keys ih =>
    unfold firstNumber
    apply (yields_number key).bind
    intro value hvalue
    rw [List.findSome?_cons, ← hvalue]
    cases value with
    | some value => exact Yields.pure rfl
    | none => exact ih

/-- A keyword that is read is the keyword of its field. -/
theorem yields_keyword (ofName? : String → Option α) (key : String) :
    Yields given rule (keyword ofName? key) (· = rule.keywordIn ofName? key) := by
  intro σ hσ
  unfold keyword Rule.keywordIn
  cases (rule.keyword? key).filter (! ·.isEmpty) with
  | none => exact ⟨rfl, hσ⟩
  | some word =>
    rw [Option.bind_some]
    cases hname : ofName? word with
    | some value =>
      simp only [hname]
      exact ⟨trivial, hσ⟩
    | none =>
      simp only [hname]
      exact ⟨trivial, hσ⟩

end FieldReader

/-! ## Areas and aims -/

open FieldReader

/-- The bounds that the fields of an area around the chosen cell stand for. -/
def Rule.areaBoundsIn (rule : Rule) (given : Sliders) : Bounds :=
  .resolve (rule.numberIn given "min_aoe") (rule.numberIn given "max_aoe") 0 0

/-- The shape of an area that is neither listed nor everywhere. -/
theorem AnchoredArea.yields_read (given : Sliders) (rule : Rule) {mode : AreaMode}
    (hcustom : mode ≠ .custom) (hall : mode ≠ .all) :
    Yields given rule (read (some mode) true) fun anchored =>
      anchored.area = ⟨.ofMode (some mode) (rule.areaBoundsIn given),
        rule.flag "aoe_excludes_self"⟩ := by
  unfold read
  refine yields_rule.bind ?_
  rintro _ rfl
  refine (yields_number "min_aoe").bind ?_
  rintro _ rfl
  refine (yields_number "max_aoe").bind ?_
  rintro _ rfl
  refine Yields.pure ?_
  have hoffsets : ¬ some mode = some AreaMode.custom := fun h => hcustom (Option.some.inj h)
  have heverywhere : ¬ some mode = some AreaMode.all := fun h => hall (Option.some.inj h)
  simp only [if_neg hoffsets, if_neg heverywhere]
  rfl

/-- The bounds that the range fields of a directional rule stand for. -/
def Rule.requestedIn (rule : Rule) (given : Sliders) : Bounds :=
  .resolve (rule.numberIn given "min_range") (rule.numberIn given "max_range") 1 1

/-- The fields with a radius of the area, in the order in which they are looked up. -/
def Rule.splashKeys : List String :=
  ["aoe_radius", "max_aoe_radius", "max_area"]

/-- What the fields of a directional rule stand for, apart from lists and labels. -/
structure Aiming.ReadFrom (given : Sliders) (rule : Rule) (aiming : Aiming) : Prop where
  selection : aiming.selection =
    let least := Number.larger (rule.requestedIn given).min 1
    ⟨least, Number.larger (rule.requestedIn given).max least⟩
  mode : aiming.mode = (rule.keywordIn AreaMode.ofName? "aoe_mode").getD .line
  areaBounds : aiming.areaBounds 0 0 = rule.areaBoundsIn given
  splash : aiming.splash =
    Number.nonNegative ((rule.firstNumberIn given Rule.splashKeys).getD 0)
  sparesActor : aiming.sparesActor = rule.flag "aoe_excludes_self"

/-- The fields of the aiming are read from the rule as they stand. -/
theorem Aiming.yields_read (given : Sliders) (rule : Rule) :
    Yields given rule read (Aiming.ReadFrom given rule) := by
  unfold read
  refine (yields_number "min_range").bind ?_
  rintro _ rfl
  refine (yields_number "max_range").bind ?_
  rintro _ rfl
  refine (yields_keyword AreaMode.ofName? "aoe_mode").bind ?_
  rintro _ rfl
  refine (yields_firstNumber ["aoe_radius", "max_aoe_radius", "max_area"]).bind ?_
  rintro _ rfl
  refine yields_rule.bind ?_
  rintro _ rfl
  refine (yields_number "min_aoe").bind ?_
  rintro _ rfl
  refine (yields_number "max_aoe").bind ?_
  rintro _ rfl
  exact Yields.pure ⟨rfl, rfl, rfl, rfl, rfl⟩

/-- What the fields of a tile rule stand for whose range is a cross and whose area is neither
listed nor everywhere. -/
structure Tile.ReadFrom (given : Sliders) (rule : Rule) (grid : Grid) (range : TileRange)
    (mode : AreaMode) (tile : Tile) : Prop where
  grid : tile.grid = grid
  range : tile.range = range
  restrictions : tile.restrictions = rule.restrictions
  area : tile.area = ⟨.ofMode (some mode) (rule.areaBoundsIn given), rule.flag "aoe_excludes_self"⟩
  includesArea : tile.includesArea =
    (rule.flag "range_display_include_aoe" && tile.area.shape.isCustom)

/-- A tile rule with a line range and a placed area is read as the scenario that its fields
describe. -/
theorem Tile.yields_read {given : Sliders} {rule : Rule} (grid : Grid) {mode : AreaMode}
    (hmode : rule.keywordIn AreaMode.ofName? "aoe_mode" = some mode)
    (hcustom : mode ≠ .custom) (hall : mode ≠ .all) {rangeMode : RangeMode}
    (hrange : rule.keywordIn RangeMode.ofName? "range_mode" = some rangeMode)
    {directions : List Direction} (hlines : rangeMode.lineDirections? = some directions)
    {min max : Float} (hmin : rule.numberIn given "min_range" = some min)
    (hmax : rule.numberIn given "max_range" = some max) :
    Yields given rule (read grid)
      (Tile.ReadFrom given rule grid (.lines directions ⟨min, max⟩) mode) := by
  unfold read
  refine (yields_number "min_range").bind ?_
  rintro _ rfl
  refine (yields_number "max_range").bind ?_
  rintro _ rfl
  refine (yields_keyword RangeMode.ofName? "range_mode").bind ?_
  rintro _ rfl
  refine yields_rule.bind ?_
  rintro _ rfl
  refine (yields_keyword AreaMode.ofName? "aoe_mode").bind ?_
  rintro _ rfl
  rw [hmode, hrange, hmin, hmax]
  apply (AnchoredArea.yields_read given _ hcustom hall).bind
  intro anchored harea
  refine Yields.pure ⟨rfl, ?_, rfl, harea, rfl⟩
  show TileRange.ofMode rangeMode ⟨min, max⟩ _ = .lines directions ⟨min, max⟩
  cases rangeMode with
  | standard => exact absurd hlines (by simp [RangeMode.lineDirections?])
  | square => exact absurd hlines (by simp [RangeMode.lineDirections?])
  | custom => exact absurd hlines (by simp [RangeMode.lineDirections?])
  | cross => rw [← Option.some.inj hlines]; rfl
  | diagonalCross => rw [← Option.some.inj hlines]; rfl
  | eightCross => rw [← Option.some.inj hlines]; rfl

end Reticle
