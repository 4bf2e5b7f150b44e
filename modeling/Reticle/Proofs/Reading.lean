import Mathlib.Logic.Basic
import Reticle.Proofs.Lines
import Reticle.Scenario.Render

/-!
# What reading a rule sees

A rule is read through two doors: names are resolved to values, which requires them, and unknown
keywords give warnings. Besides, the rule is asked for the texts of its fields. So a relation between
sliders that resolving a name respects is respected by reading a number, by reading a whole scenario,
and by rendering, also when the fields stand in other places. Stating that once for every such
relation says at the same time what reading depends on and what it leaves in place.

Which names are resolved is only known afterwards. A relation may therefore be respected just as
long as the sliders stay within bounds, such as requiring no more than given names. Sliders never
come back within bounds that they have left, so it is enough that they are within them at the end.
-/

namespace Reticle

namespace Sliders

/-- Work on sliders that does not tell the sides of a relation apart if it ends within bounds: it
gives the same result on both sides, and leaves sliders that are related again. Work that ends
within bounds began there. -/
structure Blind {α : Type} (R : Sliders → Sliders → Prop) (Within : Sliders → Prop)
    (work : Sliders → α × Sliders) : Prop where
  within : ∀ s, Within (work s).2 → Within s
  same : ∀ s t, Within (work s).2 → R s t →
    (work s).1 = (work t).1 ∧ R (work s).2 (work t).2

/-- Resolving a name within bounds does not tell the sides of a relation apart. -/
def Congruent (R : Sliders → Sliders → Prop) (Within : Sliders → Prop) : Prop :=
  ∀ name, Blind R Within fun s => s.resolve name

variable {R : Sliders → Sliders → Prop} {Within : Sliders → Prop}

/-- Without bounds, only the relation matters. -/
theorem congruent_of_resolve (h : ∀ name s t, R s t →
    (s.resolve name).1 = (t.resolve name).1 ∧ R (s.resolve name).2 (t.resolve name).2) :
    Congruent R fun _ => True :=
  fun name => ⟨fun _ _ => trivial, fun s t _ => h name s t⟩

/-- Work without any names tells nothing apart. -/
theorem Blind.const {α : Type} (a : α) : Blind R Within fun s => (a, s) :=
  ⟨fun _ h => h, fun _ _ _ h => ⟨rfl, h⟩⟩

/-- Work that goes on with what was found before. -/
theorem Blind.bind {α β : Type} {work : Sliders → α × Sliders} (hwork : Blind R Within work)
    (next : α → Sliders → β × Sliders) (hnext : ∀ a, Blind R Within (next a)) :
    Blind R Within fun s => next (work s).1 (work s).2 := by
  refine ⟨fun s h => hwork.within s ((hnext _).within _ h), fun s t hend h => ?_⟩
  obtain ⟨hresult, hrest⟩ := hwork.same s t ((hnext _).within _ hend) h
  rw [← hresult]
  exact (hnext _).same _ _ hend hrest

end Sliders

/-! ## Numbers -/

namespace Formula

open Sliders

variable {R : Sliders → Sliders → Prop} {Within : Sliders → Prop} (hR : Congruent R Within)
include hR

/-- Putting in the value of a name tells the sides no further apart. -/
theorem blind_valueText (name : List Char) : Blind R Within (valueText name) := by
  by_cases hname : name.isEmpty = true
  · have heq : valueText name = fun s => ([], s) := by
      funext s
      unfold valueText
      rw [if_pos hname]
    rw [heq]
    exact .const _
  · have heq : valueText name = fun s =>
        ((toString (s.resolve (.ofList name)).1).toList, (s.resolve (.ofList name)).2) := by
      funext s
      unfold valueText
      rw [if_neg hname]
    rw [heq]
    exact (hR (.ofList name)).bind (fun value s => ((toString value).toList, s))
      fun value => .const _

/-- Substituting all names of a text tells the sides no further apart. -/
theorem blind_substituteAfter (text name : List Char) :
    Blind R Within (substituteAfter name text) := by
  induction text generalizing name with
  | nil => exact blind_valueText hR name
  | cons c rest ih =>
    by_cases hc : (if name.isEmpty then isNameStart c else isNameChar c) = true
    · have heq : substituteAfter name (c :: rest) = substituteAfter (name ++ [c]) rest := by
        funext s
        rw [substituteAfter, if_pos hc]
      rw [heq]
      exact ih _
    · have heq : substituteAfter name (c :: rest) = fun s =>
          ((valueText name s).1 ++ c :: (substituteAfter [] rest (valueText name s).2).1,
            (substituteAfter [] rest (valueText name s).2).2) := by
        funext s
        rw [substituteAfter, if_neg hc]
      rw [heq]
      refine (blind_valueText hR name).bind (fun value s =>
        (value ++ c :: (substituteAfter [] rest s).1, (substituteAfter [] rest s).2)) ?_
      intro value
      exact (ih []).bind (fun after s => (value ++ c :: after, s)) fun after => .const _

/-- Evaluating a field tells the sides no further apart. -/
theorem blind_evalField (raw : String) : Blind R Within (evalField raw) := by
  unfold evalField
  by_cases hempty : (Text.trim raw.toList).isEmpty = true
  · simp only [hempty, if_true]
    exact .const _
  simp only [hempty]
  cases readPercentage (Text.trim raw.toList) with
  | some value => exact .const _
  | none =>
    by_cases hplain : isPlainNumber (Text.trim raw.toList) = true
    · simp only [hplain, if_true]
      exact .const _
    · simp only [hplain]
      exact (blind_substituteAfter hR (Text.trim raw.toList) []).bind
        (fun text s => (evalArithmetic (expandPercentages text), s)) fun text => .const _

omit hR in
/-- The number of a field is its value, or else the first number in it; either way its names are
required. -/
theorem numberFrom_eq (raw : String) :
    numberFrom raw = fun s => ((evalField raw s).1 <|> firstNumber raw, (evalField raw s).2) := by
  funext s
  unfold numberFrom
  rcases evalField raw s with ⟨_ | value, s'⟩ <;> rfl

/-- Reading the number of a field tells the sides no further apart. -/
theorem blind_numberFrom (raw : String) : Blind R Within (numberFrom raw) := by
  rw [numberFrom_eq]
  exact (blind_evalField hR raw).bind (fun value s => (value <|> firstNumber raw, s))
    fun value => .const _

end Formula

/-! ## Fields -/

namespace Rule

/-- Two rules give a key the same text, in whatever line it was written. -/
def SameField (r r' : Rule) (key : String) : Prop :=
  (r.field? key).map (·.text) = (r'.field? key).map (·.text)

namespace SameField

variable {r r' : Rule} {key : String}

/-- Equal fields are the same. -/
theorem of_field?_eq (h : r.field? key = r'.field? key) : r.SameField r' key :=
  congrArg _ h

variable (h : r.SameField r' key)
include h

/-- Both rules have the field or none has. -/
theorem contains_eq : r.contains key = r'.contains key := by
  have htexts : (r.field? key).map (·.text) = (r'.field? key).map (·.text) := h
  unfold contains
  rw [← Option.isSome_map (f := Field.text), htexts, Option.isSome_map]

/-- The field has the same value in both. -/
theorem value_eq : (r.field? key).map Field.value = (r'.field? key).map Field.value := by
  have hvalue : Field.value = FieldValue.ofText ∘ Field.text := rfl
  have htexts : (r.field? key).map (·.text) = (r'.field? key).map (·.text) := h
  rw [hvalue, ← Option.map_map, ← Option.map_map, htexts]

/-- The field has the same scalar in both. -/
theorem scalar?_eq : r.scalar? key = r'.scalar? key := by
  unfold scalar?
  rw [h.value_eq]

/-- The field has the same label in both. -/
theorem label?_eq : r.label? key = r'.label? key := by
  unfold label?
  rw [h.scalar?_eq]

/-- The field has the same keyword in both. -/
theorem keyword?_eq : r.keyword? key = r'.keyword? key := by
  unfold keyword?
  rw [h.scalar?_eq]

/-- The flag is the same in both. -/
theorem flag_eq : r.flag key = r'.flag key := by
  unfold flag
  rw [h.scalar?_eq]

/-- The field has the same words in both. -/
theorem words_eq : r.words key = r'.words key := by
  unfold words
  rw [h.value_eq]

/-- The field lists the same offsets in both. -/
theorem offsets_eq : r.offsets key = r'.offsets key := by
  have hoffsets : Field.offsets = (fun text => Field.offsets ⟨"", 0, text⟩) ∘ Field.text := rfl
  have htexts : (r.field? key).map (·.text) = (r'.field? key).map (·.text) := h
  unfold offsets
  rw [hoffsets, ← Option.map_map, ← Option.map_map, htexts]

end SameField

/-- The target mode is known when its field is a word that names one. -/
theorem targetMode_eq_ok_iff {rule : Rule} {mode : TargetMode} :
    rule.targetMode = .ok mode ↔ ∃ word, rule.keyword? "target_mode" = some word ∧
      word.isEmpty = false ∧ TargetMode.ofName? word = some mode := by
  constructor
  · intro h
    unfold targetMode at h
    split at h
    · cases h
    · cases hword : rule.keyword? "target_mode" with
      | none =>
        rw [hword] at h
        cases h
      | some word =>
        rw [hword] at h
        dsimp only [Option.getD_some] at h
        split at h
        · cases h
        · next hne =>
          split at h
          · next found hfound =>
            cases h
            exact ⟨word, rfl, Bool.eq_false_iff.2 hne, hfound⟩
          · cases h
  · rintro ⟨word, hword, hne, hfound⟩
    -- A rule with a target mode has a field, so it does not matter which lines are malformed.
    have hfields : rule.isEmpty = false := by
      cases hempty : rule.isEmpty with
      | false => rfl
      | true =>
        unfold keyword? scalar? field? at hword
        rw [List.isEmpty_iff.1 hempty] at hword
        cases hword
    unfold targetMode
    simp only [hfields, hword, Option.getD_some, hne, hfound, Bool.false_eq_true, if_false]

/-- A rule with the same target mode field as one that has a target mode has that mode. -/
theorem SameField.targetMode_eq {r r' : Rule} (h : r.SameField r' "target_mode")
    {mode : TargetMode} (hmode : r.targetMode = .ok mode) : r'.targetMode = .ok mode := by
  rw [targetMode_eq_ok_iff] at hmode ⊢
  rw [← h.keyword?_eq]
  exact hmode

/-- The offsets of a range depend on its list and its symmetry. -/
theorem rangeOffsets_eq {r r' : Rule} (hlist : r.SameField r' "custom_range")
    (hsymmetry : r.SameField r' "range_symmetry") : r.rangeOffsets = r'.rangeOffsets := by
  unfold rangeOffsets
  rw [hlist.offsets_eq, hsymmetry.scalar?_eq]

/-- The keys of the fields that restrict which cells can be chosen. -/
def restrictionKeys : List String :=
  ["restrictions", "straight_shot", "must_move", "requires_line_of_sight"]

/-- The restrictions depend on their own fields. -/
theorem restrictions_eq {r r' : Rule} (h : ∀ key ∈ restrictionKeys, r.SameField r' key) :
    r.restrictions = r'.restrictions := by
  unfold restrictions
  rw [(h "restrictions" (by decide)).words_eq, (h "straight_shot" (by decide)).flag_eq,
    (h "must_move" (by decide)).flag_eq, (h "requires_line_of_sight" (by decide)).flag_eq]

/-- Two rules give every key the same text, in whatever line it was written. -/
def SameFields (r r' : Rule) : Prop :=
  ∀ key, (r.field? key).map (·.text) = (r'.field? key).map (·.text)

/-- A rule has the same fields as itself. -/
theorem SameFields.refl (r : Rule) : r.SameFields r :=
  fun _ => rfl

/-- Rules with the same list of fields have the same fields. -/
theorem sameFields_of_fields_eq {r r' : Rule} (h : r.fields = r'.fields) : r.SameFields r' := by
  intro key
  unfold field?
  rw [h]

/-- The target mode depends on the fields and on the first malformed line. -/
theorem targetMode_eq_of_fields_eq {r r' : Rule} (hfields : r.fields = r'.fields)
    (hmalformed : r.firstMalformed = r'.firstMalformed) : r.targetMode = r'.targetMode := by
  unfold targetMode isEmpty keyword? scalar? line? field?
  rw [hfields, hmalformed]

namespace SameFields

variable {r r' : Rule} (h : r.SameFields r')
include h

/-- Rules with the same fields have the same field under each key. -/
theorem sameField (key : String) : r.SameField r' key :=
  h key

/-- The offsets of an area are the same. -/
theorem areaOffsets_eq : r.areaOffsets = r'.areaOffsets := by
  unfold areaOffsets
  rw [(h.sameField _).offsets_eq, (h.sameField _).scalar?_eq]

/-- Which fields are not supported is the same. -/
theorem unsupportedWarnings_eq (mode : TargetMode) :
    r.unsupportedWarnings mode = r'.unsupportedWarnings mode := by
  have hcontains : r.contains = r'.contains := funext fun key => (h.sameField key).contains_eq
  unfold unsupportedWarnings
  rw [hcontains, (h.sameField _).words_eq, (h.sameField _).words_eq]

end SameFields

end Rule

/-- What was read so far is related: the sliders are, and the warnings are the same. -/
structure ReadState.Related (R : Sliders → Sliders → Prop) (σ τ : ReadState) : Prop where
  sliders : R σ.sliders τ.sliders
  warnings : σ.warnings = τ.warnings

namespace FieldReader

/-- Reading that sees nothing but the texts of the fields and, if it ends within bounds, does not
tell the sides of a relation apart. -/
structure Blind {α : Type} (R : Sliders → Sliders → Prop) (Within : Sliders → Prop)
    (x : FieldReader α) : Prop where
  within : ∀ rule σ, Within (x rule σ).2.sliders → Within σ.sliders
  same : ∀ (rule rule' : Rule) σ τ, rule.SameFields rule' → Within (x rule σ).2.sliders →
    ReadState.Related R σ τ →
      (x rule σ).1 = (x rule' τ).1 ∧ ReadState.Related R (x rule σ).2 (x rule' τ).2

variable {R : Sliders → Sliders → Prop} {Within : Sliders → Prop}

/-- A result that reads nothing tells nothing apart. -/
theorem Blind.pure {α : Type} (a : α) : Blind R Within (Pure.pure a) :=
  ⟨fun _ _ h => h, fun _ _ _ _ _ _ h => ⟨rfl, h⟩⟩

/-- Reading one thing after another tells no more apart than each of them does. -/
theorem Blind.bind {α β : Type} {x : FieldReader α} {f : α → FieldReader β}
    (hx : Blind R Within x) (hf : ∀ a, Blind R Within (f a)) : Blind R Within (x >>= f) := by
  refine ⟨fun rule σ h => hx.within rule σ ((hf _).within rule _ h), ?_⟩
  intro rule rule' σ τ hfields hend h
  have hstep : ∀ rule σ, (x >>= f) rule σ = f (x rule σ).1 rule (x rule σ).2 := fun _ _ => rfl
  rw [hstep] at hend
  obtain ⟨hvalue, hrest⟩ := hx.same rule rule' σ τ hfields ((hf _).within rule _ hend) h
  rw [hstep, hstep, ← hvalue]
  exact (hf _).same rule rule' _ _ hfields hend hrest

/-- What is done with the rule itself has to be the same whatever places its fields have. -/
theorem Blind.rule_bind {α : Type} {f : Rule → FieldReader α}
    (hfields : ∀ r r' : Rule, r.SameFields r' → f r = f r') (hf : ∀ r, Blind R Within (f r)) :
    Blind R Within (rule >>= f) := by
  refine ⟨fun r σ h => (hf r).within r σ h, ?_⟩
  intro r r' σ τ hsame hend h
  have hstep : ∀ r σ, (rule >>= f) r σ = f r r σ := fun _ _ => rfl
  rw [hstep] at hend
  rw [hstep, hstep, ← hfields r r' hsame]
  exact (hf r).same r r' σ τ hsame hend h

/-- Keywords are read without the sliders. -/
theorem blind_keyword {α : Type} (ofName? : String → Option α) (key : String) :
    Blind R Within (keyword ofName? key) := by
  constructor
  · intro rule σ h
    unfold keyword at h
    split at h
    · exact h
    · split at h <;> exact h
  · intro rule rule' σ τ hfields _ h
    unfold keyword
    rw [(hfields.sameField _).keyword?_eq]
    cases (rule'.keyword? key).filter (! ·.isEmpty) with
    | none => exact ⟨rfl, h⟩
    | some word =>
      cases hname : ofName? word with
      | some value =>
        simp only [hname]
        exact ⟨trivial, h⟩
      | none =>
        simp only [hname]
        exact ⟨trivial, h.sliders, by rw [h.warnings]⟩

section Numbers

variable (hR : Sliders.Congruent R Within)
include hR

/-- Reading a number tells the sides no further apart. -/
theorem blind_number (key : String) : Blind R Within (number key) := by
  constructor
  · intro rule σ h
    unfold number at h
    split at h
    · exact h
    · exact (Formula.blind_numberFrom hR _).within _ h
  · intro rule rule' σ τ hfields hend h
    unfold number at hend ⊢
    rw [(hfields.sameField _).scalar?_eq] at hend ⊢
    cases hraw : rule'.scalar? key with
    | none => exact ⟨rfl, h⟩
    | some raw =>
      rw [hraw] at hend
      obtain ⟨hvalue, hsliders⟩ := (Formula.blind_numberFrom hR raw).same _ _ hend h.sliders
      exact ⟨hvalue, hsliders, h.warnings⟩

/-- Reading the first of several numbers tells the sides no further apart. -/
theorem blind_firstNumber (keys : List String) : Blind R Within (firstNumber keys) := by
  induction keys with
  | nil => exact Blind.pure _
  | cons key keys ih =>
    unfold firstNumber
    apply (blind_number hR key).bind
    intro value
    cases value with
    | some value => exact Blind.pure _
    | none => exact ih

end Numbers

end FieldReader

/-! ## Scenarios -/

section Scenarios

open FieldReader

variable {R : Sliders → Sliders → Prop} {Within : Sliders → Prop} (hR : Sliders.Congruent R Within)
include hR

/-- Reading an area tells the sides no further apart. -/
theorem AnchoredArea.blind_read (mode : Option AreaMode) (allowCrossLine : Bool) :
    Blind R Within (read mode allowCrossLine) := by
  unfold read
  apply Blind.rule_bind
  · intro r r' h
    rw [h.areaOffsets_eq, (h.sameField _).flag_eq, (h.sameField _).flag_eq,
      (h.sameField _).label?_eq, (h.sameField _).label?_eq]
  intro rule
  apply (blind_number hR _).bind
  intro min
  exact (blind_number hR _).bind fun max => Blind.pure _

/-- Reading a self cast tells the sides no further apart. -/
theorem SelfCast.blind_read (grid : Grid) : Blind R Within (read grid) := by
  unfold read
  apply (blind_keyword _ _).bind
  intro mode
  exact (AnchoredArea.blind_read hR _ _).bind fun anchored => Blind.pure _

/-- Reading a tile rule tells the sides no further apart. -/
theorem Tile.blind_read (grid : Grid) : Blind R Within (read grid) := by
  unfold read
  apply (blind_number hR _).bind
  intro min
  apply (blind_number hR _).bind
  intro max
  apply (blind_keyword _ _).bind
  intro rangeMode
  apply Blind.rule_bind
  · intro r r' h
    rw [Rule.rangeOffsets_eq (h.sameField _) (h.sameField _),
      Rule.restrictions_eq fun key _ => h.sameField key, (h.sameField _).label?_eq,
      (h.sameField _).label?_eq, (h.sameField _).flag_eq]
  intro rule
  apply (blind_keyword _ _).bind
  intro areaMode
  exact (AnchoredArea.blind_read hR _ _).bind fun anchored => Blind.pure _

/-- Reading the fields of an aiming tells the sides no further apart. -/
theorem Aiming.blind_read : Blind R Within read := by
  unfold read
  apply (blind_number hR _).bind
  intro minRange
  apply (blind_number hR _).bind
  intro maxRange
  apply (blind_keyword _ _).bind
  intro mode
  apply (blind_firstNumber hR _).bind
  intro splash
  apply Blind.rule_bind
  · intro r r' h
    rw [h.areaOffsets_eq, (h.sameField _).flag_eq, (h.sameField _).flag_eq,
      (h.sameField _).label?_eq, (h.sameField _).label?_eq]
  intro rule
  apply (blind_number hR _).bind
  intro areaMin
  exact (blind_number hR _).bind fun areaMax => Blind.pure _

/-- Reading a scenario of any mode tells the sides no further apart. -/
theorem Scenario.blind_read (mode : TargetMode) (grid : Grid) (dash : Bool) :
    Blind R Within (read mode grid dash) := by
  have hdirectional : ∀ mode : TargetMode, Blind R Within (Aiming.read >>= fun aiming =>
      if dash && Dash.applies mode aiming then Pure.pure (Scenario.dash (.ofAiming aiming grid))
      else Pure.pure (Scenario.directional (.ofAiming aiming mode grid))) := by
    intro mode
    apply (Aiming.blind_read hR).bind
    intro aiming
    split
    · exact Blind.pure _
    · exact Blind.pure _
  cases mode with
  | none => exact (SelfCast.blind_read hR grid).bind fun s => Blind.pure _
  | tile => exact (Tile.blind_read hR grid).bind fun s => Blind.pure _
  | direction => exact hdirectional _
  | direction8 => exact hdirectional _

/-- Building what a rule shows sees the texts of its fields and its target mode, and does not tell
related sliders apart if it ends within bounds. -/
theorem Rule.blind_render {rule rule' : Rule} (hfields : rule.SameFields rule')
    (hmode : rule.targetMode = rule'.targetMode) (grid : Grid) (options : RenderOptions)
    {s t : Sliders} (hend : Within (rule.render grid s options).2) (h : R s t) :
    (rule.render grid s options).1 = (rule'.render grid t options).1 ∧
      R (rule.render grid s options).2 (rule'.render grid t options).2 := by
  unfold Rule.render at hend ⊢
  rw [hmode] at hend ⊢
  cases hfound : rule'.targetMode with
  | error error => exact ⟨rfl, h⟩
  | ok mode =>
    rw [hfound] at hend
    obtain ⟨hscenario, hstate⟩ := (Scenario.blind_read hR mode grid options.dash).same rule rule'
      ⟨s, []⟩ ⟨t, []⟩ hfields hend ⟨h, rfl⟩
    refine ⟨?_, hstate.sliders⟩
    dsimp only
    rw [hfields.unsupportedWarnings_eq]
    exact congrArg₂ (fun scenario warnings => Except.ok (Rendered.mk mode scenario
      (rule'.unsupportedWarnings mode ++ warnings ++ options.noteWarnings))) hscenario hstate.warnings

end Scenarios

/-! ## Texts -/

/-- The outcome of a text that is not blank. -/
def Outcome.ofResult : Except RenderError Rendered → Outcome
  | .error error => .failed error
  | .ok rendered => .ready rendered

/-- A text that is not blank is rendered as its rule, from a registry in which nothing is required.
-/
theorem render_of_not_blank {text : String} (h : ¬ Text.isBlankText text = true) (grid : Grid)
    (s : Sliders) (options : RenderOptions) :
    render text grid s options =
      (Outcome.ofResult ((Rule.ofText text).render grid s.forgetRequired options).1,
        ((Rule.ofText text).render grid s.forgetRequired options).2) := by
  unfold render
  simp only [if_neg h]
  rcases (Rule.ofText text).render grid s.forgetRequired options with ⟨_ | rendered, s'⟩ <;> rfl

/-- A blank text is rendered as nothing, and nothing is required after it. -/
theorem render_of_blank {text : String} (h : Text.isBlankText text = true) (grid : Grid)
    (s : Sliders) (options : RenderOptions) :
    render text grid s options = (.empty, s.forgetRequired) := by
  unfold render
  rw [if_pos h]

/-- Texts that are blank together and write the same fields and the same target mode are rendered
alike. Rendering forgets first what was required; after that it does not tell related sliders apart
if it ends within bounds. -/
theorem blind_render_of_sameFields {R : Sliders → Sliders → Prop} {Within : Sliders → Prop}
    (hR : Sliders.Congruent R Within) {text text' : String}
    (hblank : Text.isBlankText text = Text.isBlankText text')
    (hfields : (Rule.ofText text).SameFields (Rule.ofText text'))
    (hmode : (Rule.ofText text).targetMode = (Rule.ofText text').targetMode) (grid : Grid)
    (options : RenderOptions) {s t : Sliders} (hend : Within (render text grid s options).2)
    (h : R s.forgetRequired t.forgetRequired) :
    (render text grid s options).1 = (render text' grid t options).1 ∧
      R (render text grid s options).2 (render text' grid t options).2 := by
  by_cases hempty : Text.isBlankText text = true
  · rw [render_of_blank hempty, render_of_blank (hblank ▸ hempty)]
    exact ⟨rfl, h⟩
  · rw [render_of_not_blank hempty] at hend
    obtain ⟨hresult, hsliders⟩ := Rule.blind_render hR hfields hmode grid options hend h
    rw [render_of_not_blank hempty, render_of_not_blank (hblank ▸ hempty)]
    exact ⟨congrArg Outcome.ofResult hresult, hsliders⟩

/-- It does not matter either whether a text was given its line ends once or twice. -/
theorem blind_render {R : Sliders → Sliders → Prop}
    (hR : Sliders.Congruent R fun _ => True) (text : String)
    (grid : Grid) (options : RenderOptions) {s t : Sliders}
    (h : R s.forgetRequired t.forgetRequired) :
    let given : String := .ofList (Text.unixLines text.toList)
    (render given grid s options).1 = (render text grid t options).1 ∧
      R (render given grid s options).2 (render text grid t options).2 := by
  intro given
  have hblank : Text.isBlankText given = Text.isBlankText text := by
    unfold Text.isBlankText
    rw [String.toList_ofList, Text.all_isBlank_unixLines]
  obtain ⟨lines, hlines⟩ := Rule.ofText_unixLines text
  have hrule : Rule.ofText given = { Rule.ofText text with lines } := hlines
  have hfields : (Rule.ofText given).fields = (Rule.ofText text).fields := by rw [hrule]
  have hmalformed : (Rule.ofText given).firstMalformed = (Rule.ofText text).firstMalformed := by
    rw [hrule]
  exact blind_render_of_sameFields hR hblank (Rule.sameFields_of_fields_eq hfields)
    (Rule.targetMode_eq_of_fields_eq hfields hmalformed) grid options trivial h

end Reticle
