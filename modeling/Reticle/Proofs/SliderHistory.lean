import Reticle.Proofs.SliderValues

/-!
# What sliders remember

Sliders are set, resolved and freed of requirements in any order. All that is left of such a
history is, for each key: the spelling of the first use of it, the value that was set last, and
whether it was resolved since the requirements were last forgotten (`find?_run`). Names are told
apart by their keys alone, so sliders refine a map from keys (`reflects_run`). The reserved name
stands apart from all this, and a blank name is never seen at all: resolving it gives the initial
value and leaves nothing behind.
-/

namespace Reticle.Sliders

/-- What can be done with sliders. -/
inductive Use
  | set (name : String) (value : Int)
  | resolve (name : String)
  | forget
deriving DecidableEq, Repr

/-- The sliders after a use; a refused setting leaves them as they are. -/
def apply (s : Sliders) : Use → Sliders
  | .set name value => ((s.set? name value).map (·.2)).getD s
  | .resolve name => (s.resolve name).2
  | .forget => s.forgetRequired

/-- The sliders after uses, the first of them first, when none had been seen before. -/
def run (uses : List Use) : Sliders :=
  uses.foldl apply empty

/-! ## Histories -/

namespace Use

/-- The spelling under which a use names a key. -/
def spelling? (key : String) : Use → Option String
  | set name _ | resolve name => if Slider.keyOf name = key then some (Text.trimmed name) else none
  | forget => none

/-- The value to which a use sets a key. -/
def value? (key : String) : Use → Option Int
  | set name value => if Slider.keyOf name = key then some value else none
  | resolve _ | forget => none

/-- Whether a use resolves a key. -/
def resolves (key : String) : Use → Bool
  | resolve name => Slider.keyOf name = key
  | set _ _ | forget => false

end Use

/-- The spelling under which a key was first seen. -/
def firstSpelling? (uses : List Use) (key : String) : Option String :=
  uses.findSome? (Use.spelling? key)

/-- The value to which a key was last set. -/
def lastValue? (uses : List Use) (key : String) : Option Int :=
  uses.reverse.findSome? (Use.value? key)

/-- Whether a key was ever resolved. -/
def everResolved (uses : List Use) (key : String) : Bool :=
  uses.any (Use.resolves key)

/-- Whether a key was resolved since the requirements were last forgotten. -/
def lastResolved (uses : List Use) (key : String) : Bool :=
  (uses.reverse.takeWhile (· != .forget)).any (Use.resolves key)

section Concat

variable (uses : List Use) (use : Use) (key : String)

/-- One more use is applied to what the others come to. -/
theorem run_concat : run (uses ++ [use]) = (run uses).apply use := by
  unfold run
  rw [List.foldl_append]
  rfl

/-- The first spelling stays once there is one. -/
theorem firstSpelling?_concat :
    firstSpelling? (uses ++ [use]) key = (firstSpelling? uses key).or (use.spelling? key) := by
  unfold firstSpelling?
  rw [List.findSome?_append]
  simp

/-- The last value is that of the last use that sets one. -/
theorem lastValue?_concat :
    lastValue? (uses ++ [use]) key = (use.value? key).or (lastValue? uses key) := by
  unfold lastValue?
  rw [List.reverse_append, List.findSome?_append]
  simp

/-- A key is required by the last use, or by those before it that nothing forgot. -/
theorem lastResolved_concat :
    lastResolved (uses ++ [use]) key =
      if use = .forget then false else use.resolves key || lastResolved uses key := by
  unfold lastResolved
  rw [List.reverse_append, List.reverse_singleton, List.singleton_append, List.takeWhile_cons]
  by_cases huse : use = .forget <;> simp [huse]

end Concat

/-- A key was seen when it was set or resolved. -/
theorem isSome_firstSpelling? (uses : List Use) (key : String) :
    (firstSpelling? uses key).isSome = ((lastValue? uses key).isSome || everResolved uses key) := by
  induction uses using List.reverseRecOn with
  | nil => rfl
  | append_singleton uses use ih =>
    have hnames : (use.spelling? key).isSome = ((use.value? key).isSome || use.resolves key) := by
      cases use with
      | set name value =>
        by_cases hname : Slider.keyOf name = key <;>
          simp [Use.spelling?, Use.value?, Use.resolves, hname]
      | resolve name =>
        by_cases hname : Slider.keyOf name = key <;>
          simp [Use.spelling?, Use.value?, Use.resolves, hname]
      | forget => rfl
    have hever : everResolved (uses ++ [use]) key =
        (everResolved uses key || use.resolves key) := by
      simp [everResolved]
    rw [firstSpelling?_concat, lastValue?_concat, hever, Option.isSome_or, Option.isSome_or, ih,
      hnames]
    cases (lastValue? uses key).isSome <;> cases (use.value? key).isSome <;> simp

/-- A key that was never seen was neither set nor resolved. -/
theorem of_firstSpelling?_eq_none {uses : List Use} {key : String}
    (h : firstSpelling? uses key = none) :
    lastValue? uses key = none ∧ everResolved uses key = false ∧ lastResolved uses key = false := by
  have hseen := isSome_firstSpelling? uses key
  rw [h, Option.isSome_none] at hseen
  obtain ⟨hvalue, hever⟩ := Bool.or_eq_false_iff.1 hseen.symm
  refine ⟨Option.isNone_iff_eq_none.1 (Option.isSome_eq_false_iff.1 hvalue), hever, ?_⟩
  unfold everResolved at hever
  unfold lastResolved
  rw [List.any_eq_false] at hever ⊢
  intro use huse
  exact hever use (List.mem_reverse.1 ((List.takeWhile_sublist _).subset huse))

/-! ## What is left of a history -/

/-- The slider that is left of a history for a key. -/
def remembered? (uses : List Use) (key : String) : Option Slider :=
  (firstSpelling? uses key).map fun name =>
    { key, name
      value := ((lastValue? uses key).map Slider.clamp).getD Slider.initial
      required := lastResolved uses key }

section Apply

variable {key : String} (hkey : key ≠ "" ∧ key ≠ Slider.reservedKey) (s : Sliders)
include hkey

/-- A name with the key of an accepted one is accepted. -/
theorem accepts_of_keyOf_eq {name : String} (h : Slider.keyOf name = key) : accepts name = true :=
  Slider.accepts_iff.2 (h ▸ hkey)

/-- Setting a name changes the slider of its key only, and adds it if there is none. -/
theorem find?_apply_set (name : String) (value : Int) :
    (s.apply (.set name value)).find? key =
      if Slider.keyOf name = key then
        some { (s.find? key).getD ⟨key, Text.trimmed name, Slider.initial, false⟩ with
          value := Slider.clamp value }
      else s.find? key := by
  by_cases hname : accepts name = true
  · have hset : s.apply (.set name value) = s.modify (Slider.keyOf name) (Text.trimmed name)
        fun e => { e with value := Slider.clamp value } := by
      simp only [apply, set?, if_pos hname, Option.map_some, Option.getD_some]
    rw [hset, find?_modify (fun e => { e with value := Slider.clamp value }) (fun _ => rfl)]
    by_cases hk : Slider.keyOf name = key
    · rw [if_pos hk.symm, if_pos hk, hk]
    · rw [if_neg (Ne.symm hk), if_neg hk]
  · have hk : Slider.keyOf name ≠ key := fun h => hname (accepts_of_keyOf_eq hkey h)
    have hset : s.apply (.set name value) = s := by
      simp only [apply, set?, if_neg hname, Option.map_none, Option.getD_none]
    rw [hset, if_neg hk]

/-- Resolving a name requires the slider of its key only, and adds it if there is none. -/
theorem find?_apply_resolve (name : String) :
    (s.apply (.resolve name)).find? key =
      if Slider.keyOf name = key then
        some { (s.find? key).getD ⟨key, Text.trimmed name, Slider.initial, false⟩ with
          required := true }
      else s.find? key := by
  refine (find?_require s name key).trans ?_
  by_cases hk : Slider.keyOf name = key
  · simp [hk, accepts_of_keyOf_eq hkey hk]
  · simp [hk]

omit hkey in
/-- Forgetting leaves every slider where it is, not required. -/
theorem find?_apply_forget :
    (s.apply .forget).find? key = (s.find? key).map ({ · with required := false }) := by
  show s.forgetRequired.find? key = _
  unfold forgetRequired find?
  rw [List.find?_map]
  rfl

/-- Sliders that are what is left of a history are, after one more use, what is left of the longer
history. -/
theorem find?_apply_eq_remembered? {uses : List Use} (h : s.find? key = remembered? uses key)
    (use : Use) : (s.apply use).find? key = remembered? (uses ++ [use]) key := by
  unfold remembered? at h ⊢
  rw [firstSpelling?_concat, lastValue?_concat, lastResolved_concat]
  cases use with
  | set name value =>
    rw [find?_apply_set hkey, h]
    by_cases hname : Slider.keyOf name = key
    · cases hseen : firstSpelling? uses key with
      | none =>
        have hnone := of_firstSpelling?_eq_none hseen
        simp [hname, Use.spelling?, Use.value?, Use.resolves, hnone]
      | some spelling => simp [hname, Use.value?, Use.resolves]
    · simp [hname, Use.spelling?, Use.value?, Use.resolves]
  -- resolving adds a slider where setting would, and leaves its value alone
  | resolve name =>
    rw [find?_apply_resolve hkey, h]
    by_cases hname : Slider.keyOf name = key
    · cases hseen : firstSpelling? uses key with
      | none =>
        have hnone := of_firstSpelling?_eq_none hseen
        simp [hname, Use.spelling?, Use.value?, Use.resolves, hnone]
      | some spelling => simp [hname, Use.value?, Use.resolves]
    · simp [hname, Use.spelling?, Use.value?, Use.resolves]
  | forget =>
    rw [find?_apply_forget, h, Option.map_map]
    simp [Use.spelling?, Use.value?, Function.comp_def]

/-- After a run, every key that a slider can have has the slider that is left of the history. -/
theorem find?_run (uses : List Use) : (run uses).find? key = remembered? uses key := by
  induction uses using List.reverseRecOn with
  | nil => rfl
  | append_singleton uses use ih =>
    rw [run_concat]
    exact find?_apply_eq_remembered? hkey (run uses) ih use

end Apply

/-- Every use keeps sliders well formed. -/
theorem WellFormed.apply {s : Sliders} (h : s.WellFormed) (use : Use) :
    (s.apply use).WellFormed := by
  cases use with
  | set name value =>
    simp only [Sliders.apply]
    cases hset : s.set? name value with
    | none => exact h
    | some stored => exact h.of_set? hset
  | resolve name => exact h.require name
  | forget => exact h.forgetRequired

/-- Whatever the history, the sliders are well formed. -/
theorem wellFormed_run (uses : List Use) : (run uses).WellFormed := by
  induction uses using List.reverseRecOn with
  | nil => exact wellFormed_empty
  | append_singleton uses use ih =>
    rw [run_concat]
    exact ih.apply use

/-! ## Sliders as a map from keys -/

/-- The value that a history leaves: the last one set, clamped, or the initial one if the key was
resolved only. -/
theorem map_value_remembered? (uses : List Use) (key : String) :
    (remembered? uses key).map (·.value) = ((lastValue? uses key).map Slider.clamp).or
      (if everResolved uses key = true then some Slider.initial else none) := by
  unfold remembered?
  cases hseen : firstSpelling? uses key with
  | none =>
    obtain ⟨hvalue, hever, -⟩ := of_firstSpelling?_eq_none hseen
    simp [hvalue, hever]
  | some spelling =>
    have hsome := isSome_firstSpelling? uses key
    rw [hseen, Option.isSome_some] at hsome
    cases hvalue : lastValue? uses key with
    | none =>
      have hever : everResolved uses key = true := by simpa [hvalue] using hsome.symm
      simp [hever]
    | some value => simp

/-- A key is required when it was resolved since the last forgetting. -/
theorem any_required_remembered? (uses : List Use) (key : String) :
    (remembered? uses key).any (·.required) = lastResolved uses key := by
  unfold remembered?
  cases hseen : firstSpelling? uses key with
  | none =>
    obtain ⟨-, -, hresolved⟩ := of_firstSpelling?_eq_none hseen
    simp [hresolved]
  | some spelling => simp

/-- Sliders say of every name what a history says of its key. -/
structure Reflects (s : Sliders) (uses : List Use) : Prop where
  /-- The reserved name has its value and a blank name has none. Any other name has the value it was
  last set to, moved into the range of sliders, or the initial value if it was only resolved. -/
  value?_eq : ∀ name, s.value? name =
    if Slider.keyOf name = Slider.reservedKey then some Slider.reservedValue
    else if Text.isBlankText name = true then none
    else ((lastValue? uses (Slider.keyOf name)).map Slider.clamp).or
      (if everResolved uses (Slider.keyOf name) = true then some Slider.initial else none)
  /-- Resolving a name gives its value, or the initial value if it has none yet. -/
  fst_resolve : ∀ name, (s.resolve name).1 = (s.value? name).getD Slider.initial
  /-- Setting the reserved name or a blank one is refused and changes nothing. -/
  refuses : ∀ name value, Slider.keyOf name = Slider.reservedKey ∨ Text.isBlankText name = true →
    s.set? name value = none ∧ s.apply (.set name value) = s
  /-- A name is required when it was resolved since the requirements were last forgotten, unless it
  is reserved or blank. -/
  isRequired_iff : ∀ name, s.isRequired name = true ↔
    Slider.keyOf name ≠ Slider.reservedKey ∧ Text.isBlankText name = false ∧
      lastResolved uses (Slider.keyOf name) = true
  /-- Every required name is listed with the spelling under which it was first seen and with its
  value. -/
  listed : ∀ name, s.isRequired name = true → ∃ spelling value,
    firstSpelling? uses (Slider.keyOf name) = some spelling ∧ s.value? name = some value ∧
      (spelling, value) ∈ s.adjustable
  /-- Nothing else is listed. -/
  isRequired_of_listed : ∀ entry ∈ s.adjustable, s.isRequired entry.1 = true
  /-- The list is in strictly ascending order of lower-case names, so no name is listed twice. -/
  ascending : s.adjustable.Pairwise fun p q => Slider.keyOf p.1 < Slider.keyOf q.1

/-- A name is refused when it is the reserved one or blank. -/
theorem accepts_eq_false_iff {name : String} : accepts name = false ↔
    Slider.keyOf name = Slider.reservedKey ∨ Text.isBlankText name = true := by
  unfold accepts
  rw [Bool.and_eq_false_iff, Bool.not_eq_false', bne_eq_false_iff_eq, or_comm]

section Reflects

variable (uses : List Use)

/-- The value of a name in terms of the history alone. -/
theorem value?_run (name : String) : (run uses).value? name =
    if Slider.keyOf name = Slider.reservedKey then some Slider.reservedValue
    else if Text.isBlankText name = true then none
    else ((lastValue? uses (Slider.keyOf name)).map Slider.clamp).or
      (if everResolved uses (Slider.keyOf name) = true then some Slider.initial else none) := by
  by_cases hreserved : Slider.keyOf name = Slider.reservedKey
  · simp [value?, hreserved]
  · rw [if_neg hreserved, value?_of_not_reserved hreserved]
    by_cases hblank : Text.isBlankText name = true
    · rw [if_pos hblank, find?_of_not_accepted (wellFormed_run uses)
        (accepts_eq_false_iff.2 (.inr hblank))]
      rfl
    · have hkey : Slider.keyOf name ≠ "" := fun h => hblank (Slider.keyOf_eq_empty.1 h)
      rw [if_neg hblank, find?_run ⟨hkey, hreserved⟩, map_value_remembered?]

/-- A name is required when it is accepted and was resolved since the last forgetting. -/
theorem isRequired_run (name : String) : (run uses).isRequired name =
    (accepts name && lastResolved uses (Slider.keyOf name)) := by
  unfold isRequired
  cases hname : accepts name with
  | false =>
    rw [find?_of_not_accepted (wellFormed_run uses) hname]
    rfl
  | true =>
    rw [find?_run (Slider.accepts_iff.1 hname), any_required_remembered?]
    rfl

/-- Every required name is listed, in its first spelling and with its value. -/
theorem exists_mem_adjustable_run {name : String} (h : (run uses).isRequired name = true) :
    ∃ spelling value, firstSpelling? uses (Slider.keyOf name) = some spelling ∧
      (run uses).value? name = some value ∧ (spelling, value) ∈ (run uses).adjustable := by
  have hname : accepts name = true := by
    rw [isRequired_run, Bool.and_eq_true] at h
    exact h.1
  have hkey := Slider.accepts_iff.1 hname
  obtain ⟨e, hfind, hrequired⟩ := Option.any_eq_true _ _ |>.1 h
  refine ⟨e.name, e.value, ?_, ?_, ?_⟩
  · have hremembered := hfind
    rw [find?_run hkey] at hremembered
    obtain ⟨spelling, hspelling, rfl⟩ := Option.map_eq_some_iff.1 hremembered
    exact hspelling
  · rw [value?_of_not_reserved hkey.2, hfind]
    rfl
  · obtain ⟨hmem, -⟩ := (find?_eq_some_iff (wellFormed_run uses)).1 hfind
    exact mem_adjustable.2 ⟨e, hmem, hrequired, rfl, rfl⟩

end Reflects

/-- Every listed name is required. -/
theorem isRequired_of_mem_adjustable {s : Sliders} (h : s.WellFormed) {entry : String × Int}
    (hentry : entry ∈ s.adjustable) : s.isRequired entry.1 = true := by
  obtain ⟨e, hmem, hrequired, hname, -⟩ := mem_adjustable.1 hentry
  unfold isRequired
  rw [← hname, (h.proper e hmem).keyOf_name, (find?_eq_some_iff h).2 ⟨hmem, rfl⟩]
  exact hrequired

/-- After any run, sliders are a map from keys: they say of a name what the history says of its
key. -/
theorem reflects_run (uses : List Use) : (run uses).Reflects uses where
  value?_eq := value?_run uses
  fst_resolve name := by
    rw [Sliders.fst_resolve]
    by_cases hreserved : Slider.keyOf name = Slider.reservedKey
    · simp [value?, hreserved]
    · rw [if_neg hreserved, value?_of_not_reserved hreserved]
      rfl
  refuses name value hname := by
    have hset : (run uses).set? name value = none :=
      if_neg (by rw [accepts_eq_false_iff.2 hname]; exact Bool.false_ne_true)
    exact ⟨hset, by simp only [apply, hset, Option.map_none, Option.getD_none]⟩
  isRequired_iff name := by
    rw [isRequired_run, Bool.and_eq_true, ← Bool.not_eq_false (accepts name), accepts_eq_false_iff,
      not_or, Bool.not_eq_true, and_assoc]
  listed name := exists_mem_adjustable_run uses
  isRequired_of_listed entry := isRequired_of_mem_adjustable (wellFormed_run uses)
  ascending := by
    have hkeys := pairwise_adjustableKeys (wellFormed_run uses)
    rw [adjustableKeys, List.pairwise_map] at hkeys
    exact hkeys

/-- A blank name that was resolved has no value afterwards, unlike any other name. -/
theorem value?_resolved_blank : (run [.resolve " "]).value? " " ≠
    ((lastValue? [.resolve " "] (Slider.keyOf " ")).map Slider.clamp).or
      (if everResolved [.resolve " "] (Slider.keyOf " ") = true then some Slider.initial
        else none) := by
  decide +kernel

end Reticle.Sliders
