import Reticle.Formula.Registry
import Reticle.Proofs.SliderHistory

/-!
# The registry and the sliders

The tables of a registry say what a list of sliders says (`Keeps`): a key leads to the name of its
slider, that name to the slider's value, and it is in the set if the slider is required. Every use
keeps it so (`Keeps.apply`), hence every run does (`keeps_run`). A registry and its sliders give the
same answers (`answersLike_run`), so that the list stands for the two tables and the set.
-/

namespace Reticle

namespace Text

/-- Only a name in ASCII agrees with one up to the case of ASCII letters, and it has the same lower
case. -/
theorem lowercase_of_eqIgnoringCase {s t : String} (ht : ∀ c ∈ t.toList, c.toNat < 0x80)
    (hlower : t.toList.map Char.toLower = t.toList) (h : eqIgnoringCase s t = true) :
    lowercase s = t := by
  unfold eqIgnoringCase at h
  have hmap : s.toList.map Char.toLower = t.toList := (beq_iff_eq.1 h).trans hlower
  have hascii : ∀ c ∈ s.toList, c.toNat < 0x80 := by
    intro c hc
    have hmem : c.toLower ∈ t.toList := hmap ▸ List.mem_map_of_mem hc
    exact toNat_lt_of_toLower (ht _ hmem)
  unfold lowercase
  rw [lowercaseAfter_of_ascii hascii, hmap, String.ofList_toList]

end Text

namespace Slider

/-- The reserved name is its own key. -/
theorem keyOf_reservedKey : keyOf reservedKey = reservedKey := by
  decide +kernel

/-- No slider has the reserved name. -/
theorem Proper.name_ne {e : Slider} (h : e.Proper) : e.name ≠ reservedKey := by
  intro hname
  refine (accepts_iff.1 h.accepted).2 ?_
  rw [hname, keyOf_reservedKey]

end Slider

namespace Sliders

/-- The slider of a name, or the one that is added for it. -/
def slot (s : Sliders) (name : String) : Slider :=
  (s.find? (Slider.keyOf name)).getD
    ⟨Slider.keyOf name, Text.trimmed name, Slider.initial, false⟩

/-- The slider that was first seen under exactly this spelling. -/
def spelled? (s : Sliders) (name : String) : Option Slider :=
  (s.find? (Slider.keyOf name)).filter (·.name == name)

/-- The names of sliders have no blanks around them. -/
def Trimmed (s : Sliders) : Prop :=
  ∀ e ∈ s.entries, Text.trimmed e.name = e.name

section

variable {s : Sliders} (h : s.WellFormed)
include h

/-- A slider is found under its own spelling. -/
theorem spelled?_of_find? {key : String} {e : Slider} (hfind : s.find? key = some e) :
    s.spelled? e.name = some e := by
  obtain ⟨hmem, hkey⟩ := (find?_eq_some_iff h).1 hfind
  unfold spelled?
  rw [(h.proper e hmem).keyOf_name, hkey, hfind]
  simp

/-- No slider is spelled like the reserved name. -/
theorem spelled?_reservedKey : s.spelled? Slider.reservedKey = none := by
  have hrefused : accepts Slider.reservedKey = false :=
    accepts_eq_false_iff.2 (.inl Slider.keyOf_reservedKey)
  unfold spelled?
  rw [find?_of_not_accepted h hrefused]
  rfl

/-- A spelling has the slider of that name. -/
theorem spelled?_eq_some_iff {name : String} {e : Slider} :
    s.spelled? name = some e ↔ e ∈ s.entries ∧ e.name = name := by
  constructor
  · intro hspelled
    obtain ⟨hfind, hname⟩ := Option.filter_eq_some_iff.1 hspelled
    exact ⟨((find?_eq_some_iff h).1 hfind).1, beq_iff_eq.1 hname⟩
  · rintro ⟨hmem, rfl⟩
    exact spelled?_of_find? h ((find?_eq_some_iff h).2 ⟨hmem, rfl⟩)

variable {name : String}

/-- The slot of a name has the key of the name. -/
theorem keyOf_slot : Slider.keyOf (s.slot name).name = Slider.keyOf name := by
  unfold slot
  cases hfind : s.find? (Slider.keyOf name) with
  | none => exact Slider.keyOf_trimmed name
  | some e =>
    obtain ⟨hmem, hkey⟩ := (find?_eq_some_iff h).1 hfind
    exact (h.proper e hmem).keyOf_name.trans hkey

/-- Under the spelling of its slider a key has that slider, if it was seen at all. -/
theorem spelled?_slot : s.spelled? (s.slot name).name = s.find? (Slider.keyOf name) := by
  unfold spelled?
  rw [keyOf_slot h]
  unfold slot
  cases s.find? (Slider.keyOf name) with
  | none => rfl
  | some e => simp

/-- A change of one slider is seen under the spelling of that slider only. -/
theorem spelled?_modify {change : Slider → Slider} (hkey : ∀ e, (change e).key = e.key)
    (hname : ∀ e, (change e).name = e.name) (n : String) :
    (s.modify (Slider.keyOf name) (Text.trimmed name) change).spelled? n =
      if n = (s.slot name).name then some (change (s.slot name)) else s.spelled? n := by
  unfold spelled?
  rw [find?_modify change hkey]
  by_cases hn : Slider.keyOf n = Slider.keyOf name
  · rw [if_pos hn, hn]
    show (some (change (s.slot name))).filter _ = _
    by_cases hsame : n = (s.slot name).name
    · simp [← hsame, hname]
    · have hnone : ∀ e : Slider, e.name = (s.slot name).name →
          (some e).filter (·.name == n) = none := by
        intro e he
        rw [Option.filter_some, he, if_neg (by simpa using Ne.symm hsame)]
      rw [if_neg hsame, hnone _ (hname _)]
      unfold slot at hnone
      cases hfind : s.find? (Slider.keyOf name) with
      | none => rfl
      | some e =>
        rw [hfind] at hnone
        exact (hnone e rfl).symm
  · have hother : n ≠ (s.slot name).name := by
      rintro rfl
      exact hn (keyOf_slot h)
    rw [if_neg hn, if_neg hother]

end

/-- The slot of a name has the value that its key stands for. -/
theorem value_slot (s : Sliders) (name : String) :
    (s.slot name).value = s.valueOf (Slider.keyOf name) := by
  unfold slot valueOf
  cases s.find? (Slider.keyOf name) <;> rfl

/-- The slot of a name is required when its key is. -/
theorem required_slot (s : Sliders) (name : String) :
    (s.slot name).required = s.requires (Slider.keyOf name) := by
  unfold slot requires
  cases s.find? (Slider.keyOf name) <;> rfl

/-- A change that keeps the names keeps them trimmed, and so does adding a trimmed one. -/
theorem Trimmed.modify {s : Sliders} (h : s.Trimmed) {change : Slider → Slider}
    (hsame : ∀ e, (change e).name = e.name) (key name : String) :
    (s.modify key (Text.trimmed name) change).Trimmed := by
  intro e he
  unfold Sliders.modify at he
  split at he
  · obtain ⟨e', he', rfl⟩ := List.mem_map.1 he
    split
    · exact (hsame e').symm ▸ h e' he'
    · exact h e' he'
  · rcases List.mem_append.1 he with he | he
    · exact h e he
    · rw [List.mem_singleton.1 he, hsame]
      exact Text.trimmed_trimmed name

end Sliders

namespace Registry

/-- A new entry leaves a key that is there already with its value. -/
theorem getElem?_insertIfNew {β : Type} (m : Std.HashMap String β) (key : String) (value : β)
    (k : String) :
    (m.insertIfNew key value)[k]? = if k = key then some (m.getD key value) else m[k]? := by
  rw [Std.HashMap.getElem?_insertIfNew, Std.HashMap.getD_eq_getD_getElem?]
  by_cases hk : k = key
  · subst hk
    by_cases hmem : k ∈ m
    · simp [hmem]
    · simp [hmem]
  · rw [if_neg hk, if_neg (fun hnew => hk (beq_iff_eq.1 hnew.1).symm)]

/-! ## The order of the list -/

/-- Names are listed by their lower case, and among equals by their spelling. -/
theorem listedBefore_iff {p q : String × Int} : listedBefore p q = true ↔
    Text.lowercase p.1 < Text.lowercase q.1 ∨
      Text.lowercase p.1 = Text.lowercase q.1 ∧ p.1 ≤ q.1 := by
  unfold listedBefore
  simp

/-- The order of the listing is transitive. -/
theorem listedBefore_trans (p q u : String × Int) (hpq : listedBefore p q = true)
    (hqu : listedBefore q u = true) : listedBefore p u = true := by
  rw [listedBefore_iff] at *
  rcases hpq with hpq | ⟨hpq, hle⟩
  · rcases hqu with hqu | ⟨hqu, -⟩
    · exact .inl (hpq.trans hqu)
    · exact .inl (hqu ▸ hpq)
  · rcases hqu with hqu | ⟨hqu, hle'⟩
    · exact .inl (hpq ▸ hqu)
    · exact .inr ⟨hpq.trans hqu, hle.trans hle'⟩

/-- Any two entries can be listed one before the other. -/
theorem listedBefore_total (p q : String × Int) :
    (listedBefore p q || listedBefore q p) = true := by
  rw [Bool.or_eq_true, listedBefore_iff, listedBefore_iff]
  rcases lt_trichotomy (Text.lowercase p.1) (Text.lowercase q.1) with hlt | heq | hgt
  · exact .inl (.inl hlt)
  · exact (le_total p.1 q.1).imp (fun hle => .inr ⟨heq, hle⟩) fun hle => .inr ⟨heq.symm, hle⟩
  · exact .inr (.inl hgt)

/-- Entries that are listed before each other have the same name. -/
theorem listedBefore_antisymm {p q : String × Int} (hpq : listedBefore p q = true)
    (hqp : listedBefore q p = true) : p.1 = q.1 := by
  rw [listedBefore_iff] at hpq hqp
  rcases hpq with hpq | ⟨hpq, hle⟩
  · rcases hqp with hqp | ⟨hqp, -⟩
    · exact absurd hqp (lt_asymm hpq)
    · exact absurd (hqp ▸ hpq) (lt_irrefl _)
  · rcases hqp with hqp | ⟨-, hle'⟩
    · exact absurd (hpq ▸ hqp) (lt_irrefl _)
    · exact le_antisymm hle hle'

/-! ## Runs -/

/-- The registry after a use; a refused setting leaves it as it is. -/
def apply (r : Registry) : Sliders.Use → Registry
  | .set name value => ((r.set? name value).map (·.2)).getD r
  | .resolve name => (r.resolve name).2
  | .forget => r.forgetRequired

/-- The registry after uses, the first of them first. -/
def run (uses : List Sliders.Use) : Registry :=
  uses.foldl apply start

/-- The tables say what the sliders say. -/
structure Keeps (r : Registry) (s : Sliders) : Prop where
  wellFormed : s.WellFormed
  trimmed : s.Trimmed
  canonical : ∀ key, r.canonical[key]? =
    if key = Slider.reservedKey then some Slider.reservedKey else (s.find? key).map (·.name)
  values : ∀ name, r.values[name]? =
    if name = Slider.reservedKey then some Slider.reservedValue
    else (s.spelled? name).map (·.value)
  required : ∀ name, r.required.contains name = (s.spelled? name).any (·.required)

/-- At the start both registries hold nothing. -/
theorem keeps_start : start.Keeps .empty where
  wellFormed := Sliders.wellFormed_empty
  trimmed e he := absurd he List.not_mem_nil
  canonical key := by
    show ({(Slider.reservedKey, Slider.reservedKey)} : Std.HashMap String String)[key]? = _
    by_cases hkey : key = Slider.reservedKey
    · simp [hkey]
    · simp [hkey, Ne.symm hkey, Sliders.find?, Sliders.empty]
  values name := by
    show ({(Slider.reservedKey, Slider.reservedValue)} : Std.HashMap String Int)[name]? = _
    by_cases hname : name = Slider.reservedKey
    · simp [hname]
    · simp [hname, Ne.symm hname, Sliders.spelled?, Sliders.find?, Sliders.empty]
  required name := Std.TreeSet.contains_emptyc

/-! ## One use -/

/-- The names that the tables refuse are those that are not accepted. -/
theorem refuses_eq (name : String) :
    (Text.isBlankText name || Slider.keyOf name == Slider.reservedKey) =
      !Sliders.accepts name := by
  unfold Sliders.accepts
  cases Text.isBlankText name <;> simp [bne]

/-- Registering an accepted name enters its key, gives its first spelling a value if it has none,
and marks it. -/
theorem register?_of_accepts {name : String} (hname : Sliders.accepts name = true)
    (r : Registry) :
    r.register? name = some ((r.enter (Slider.keyOf name) (Text.trimmed name)).1,
      { (r.enter (Slider.keyOf name) (Text.trimmed name)).2 with
        values := r.values.insertIfNew (r.enter (Slider.keyOf name) (Text.trimmed name)).1
          Slider.initial
        required := r.required.insert (r.enter (Slider.keyOf name) (Text.trimmed name)).1 }) := by
  have hrefused := refuses_eq name
  rw [hname, Bool.not_true, Bool.or_eq_false_iff] at hrefused
  unfold register?
  rw [hrefused.1, hrefused.2]
  rfl

section Keeps

variable {r : Registry} {s : Sliders} (h : r.Keeps s)
include h

/-- The slot of an accepted name is not spelled like the reserved one. -/
theorem Keeps.slot_name_ne {name : String} (hname : Sliders.accepts name = true) :
    (s.slot name).name ≠ Slider.reservedKey := by
  intro hreserved
  refine (Slider.accepts_iff.1 hname).2 ?_
  rw [← Sliders.keyOf_slot h.wellFormed, hreserved, Slider.keyOf_reservedKey]

/-- Entering a key finds the name of its slider. -/
theorem Keeps.fst_enter {name : String} (hname : Sliders.accepts name = true) :
    (r.enter (Slider.keyOf name) (Text.trimmed name)).1 =
      (s.slot name).name := by
  unfold enter Sliders.slot
  rw [Std.HashMap.getD_eq_getD_getElem?, h.canonical, if_neg (Slider.accepts_iff.1 hname).2]
  cases s.find? (Slider.keyOf name) <;> rfl

/-- Once a key is entered it leads to the name of its slider. -/
theorem Keeps.canonical_enter {name : String} (hname : Sliders.accepts name = true)
    (key : String) :
    (r.enter (Slider.keyOf name) (Text.trimmed name)).2.canonical[key]? =
      if key = Slider.keyOf name then some (s.slot name).name else r.canonical[key]? := by
  rw [← h.fst_enter hname]
  exact getElem?_insertIfNew r.canonical (Slider.keyOf name) (Text.trimmed name) key

/-- The value under the spelling of a slider is the slider's, once there is one. -/
theorem Keeps.getD_values {name : String} (hname : Sliders.accepts name = true) :
    r.values.getD (s.slot name).name Slider.initial = (s.slot name).value := by
  rw [Std.HashMap.getD_eq_getD_getElem?, h.values, if_neg (h.slot_name_ne hname),
    Sliders.spelled?_slot h.wellFormed, s.value_slot]
  rfl

/-- Tables that change under the spelling of one slider keep what the sliders say after the change of
that slider. -/
theorem Keeps.modify {name : String} (hname : Sliders.accepts name = true)
    {change : Slider → Slider} (hkey : ∀ e, (change e).key = e.key)
    (hsame : ∀ e, (change e).name = e.name) (hproper : ∀ e : Slider, e.Proper → (change e).Proper)
    {r' : Registry}
    (hcanonical : r'.canonical = (r.enter (Slider.keyOf name) (Text.trimmed name)).2.canonical)
    (hvalues : ∀ n, r'.values[n]? =
      if n = (s.slot name).name then some (change (s.slot name)).value else r.values[n]?)
    (hrequired : ∀ n, r'.required.contains n =
      if n = (s.slot name).name then (change (s.slot name)).required
      else r.required.contains n) :
    r'.Keeps (s.modify (Slider.keyOf name) (Text.trimmed name) change) where
  wellFormed := h.wellFormed.modify change hkey hname hproper
  trimmed := h.trimmed.modify hsame (Slider.keyOf name) name
  canonical key := by
    rw [hcanonical, h.canonical_enter hname, Sliders.find?_modify change hkey, h.canonical]
    by_cases hk : key = Slider.keyOf name
    · rw [if_pos hk, if_pos hk, if_neg (hk ▸ (Slider.accepts_iff.1 hname).2), Option.map_some,
        hsame]
      rfl
    · rw [if_neg hk, if_neg hk]
  values n := by
    rw [hvalues, Sliders.spelled?_modify h.wellFormed hkey hsame, h.values]
    by_cases hn : n = (s.slot name).name
    · rw [if_pos hn, if_pos hn, if_neg (hn ▸ h.slot_name_ne hname)]
      rfl
    · rw [if_neg hn, if_neg hn]
  required n := by
    rw [hrequired, Sliders.spelled?_modify h.wellFormed hkey hsame, h.required]
    split <;> rfl

/-- Registering a name that can belong to a slider requires it, and finds the name of its slider. -/
theorem Keeps.register? {name : String} (hname : Sliders.accepts name = true) :
    ∃ r', r.register? name = some ((s.slot name).name, r') ∧
      r'.Keeps (s.require name) ∧
      r'.values.getD (s.slot name).name Slider.initial =
        s.valueOf (Slider.keyOf name) := by
  have hvalues : ∀ n, (r.values.insertIfNew (s.slot name).name Slider.initial)[n]? =
      if n = (s.slot name).name then some (s.slot name).value else r.values[n]? := by
    intro n
    rw [getElem?_insertIfNew, h.getD_values hname]
  rw [register?_of_accepts hname, h.fst_enter hname]
  refine ⟨_, rfl, ?_, ?_⟩
  · have hrequire : s.require name = s.modify (Slider.keyOf name) (Text.trimmed name)
        fun e => { e with required := true } :=
      if_pos hname
    rw [hrequire]
    refine h.modify hname ?_ ?_ ?_ ?_ ?_ ?_
    · exact fun _ => rfl
    · exact fun _ => rfl
    · exact fun e he => ⟨he.accepted, he.keyOf_name, he.clamped⟩
    · rfl
    · exact hvalues
    intro n
    show (r.required.insert _).contains n = _
    rw [Std.TreeSet.contains_insert]
    by_cases hn : n = (s.slot name).name
    · simp [hn]
    · simp [hn, Ne.symm hn]
  · show (r.values.insertIfNew _ _).getD _ _ = _
    rw [Std.HashMap.getD_eq_getD_getElem?, hvalues, if_pos rfl, s.value_slot]
    rfl

/-- Resolving a name gives the sliders' value, and the tables keep what the sliders say. -/
theorem Keeps.resolve (name : String) :
    (r.resolve name).1 = (s.resolve name).1 ∧ (r.resolve name).2.Keeps (s.resolve name).2 := by
  rw [Sliders.fst_resolve]
  show _ ∧ (r.resolve name).2.Keeps (s.require name)
  cases hname : Sliders.accepts name with
  | true =>
    obtain ⟨r', hregister, hkeeps, hvalue⟩ := h.register? hname
    unfold Registry.resolve
    rw [hregister, if_neg (Slider.accepts_iff.1 hname).2]
    exact ⟨hvalue, hkeeps⟩
  | false =>
    have hrequire : s.require name = s := if_neg (by rw [hname]; exact Bool.false_ne_true)
    rw [hrequire]
    by_cases hblank : Text.isBlankText name = true
    · have hresolve : r.resolve name = (Slider.initial, r) := by
        unfold Registry.resolve Registry.register?
        rw [if_pos hblank]
      have hkey : Slider.keyOf name ≠ Slider.reservedKey := by
        rw [Slider.keyOf_eq_empty.2 hblank]
        decide
      rw [hresolve, if_neg hkey, Sliders.valueOf_of_not_accepted h.wellFormed hname]
      exact ⟨rfl, h⟩
    · have hkey : Slider.keyOf name = Slider.reservedKey :=
        (Sliders.accepts_eq_false_iff.1 hname).resolve_right hblank
      have hresolve : r.resolve name = (r.values.getD Slider.reservedKey Slider.initial, r) := by
        unfold Registry.resolve Registry.register?
        rw [if_neg hblank, if_pos (beq_iff_eq.2 hkey)]
      rw [hresolve, if_pos hkey, Std.HashMap.getD_eq_getD_getElem?, h.values, if_pos rfl]
      exact ⟨rfl, h⟩

/-- Setting a name is refused like the sliders refuse it, or stores what they store. -/
theorem Keeps.set? (name : String) (value : Int) :
    (r.set? name value).map (·.1) = (s.set? name value).map (·.1) ∧
      (((r.set? name value).map (·.2)).getD r).Keeps
        (((s.set? name value).map (·.2)).getD s) := by
  unfold Registry.set? Sliders.set?
  rw [refuses_eq]
  cases hname : Sliders.accepts name with
  | true =>
    refine ⟨rfl, ?_⟩
    show Keeps { (r.enter (Slider.keyOf name) (Text.trimmed name)).2 with
        values := r.values.insert (r.enter (Slider.keyOf name) (Text.trimmed name)).1
          (Slider.clamp value) }
      (s.modify (Slider.keyOf name) (Text.trimmed name)
        fun e => { e with value := Slider.clamp value })
    refine h.modify hname ?_ ?_ ?_ ?_ ?_ ?_
    · exact fun _ => rfl
    · exact fun _ => rfl
    · exact fun e he => ⟨he.accepted, he.keyOf_name, Slider.clamp_clamp value⟩
    · rfl
    · intro n
      show (r.values.insert (r.enter (Slider.keyOf name) (Text.trimmed name)).1 _)[n]? = _
      rw [Std.HashMap.getElem?_insert, h.fst_enter hname]
      by_cases hn : n = (s.slot name).name
      · simp [hn]
      · simp [hn, Ne.symm hn]
    · intro n
      show r.required.contains n = _
      split
      · next hn =>
        rw [hn, h.required, Sliders.spelled?_slot h.wellFormed]
        exact (s.required_slot name).symm
      · rfl
  | false => exact ⟨rfl, h⟩

/-- Forgetting what is required keeps the simulation. -/
theorem Keeps.forgetRequired : r.forgetRequired.Keeps s.forgetRequired := by
  have hfind : ∀ key, s.forgetRequired.find? key =
      (s.find? key).map ({ · with required := false }) := fun key => s.find?_apply_forget
  have hspelled : ∀ name, s.forgetRequired.spelled? name =
      (s.spelled? name).map ({ · with required := false }) := by
    intro name
    unfold Sliders.spelled?
    rw [hfind, Option.filter_map]
    rfl
  refine ⟨h.wellFormed.forgetRequired, ?_, fun key => ?_, fun name => ?_, fun name => ?_⟩
  · intro e he
    obtain ⟨e', he', rfl⟩ := List.mem_map.1 he
    exact h.trimmed e' he'
  · rw [hfind, Option.map_map]
    exact h.canonical key
  · rw [hspelled, Option.map_map]
    exact h.values name
  · rw [hspelled]
    show (∅ : Std.TreeSet String).contains name = _
    rw [Std.TreeSet.contains_emptyc]
    cases s.spelled? name <;> rfl

/-- Every use keeps the tables saying what the sliders say. -/
theorem Keeps.apply (use : Sliders.Use) : (r.apply use).Keeps (s.apply use) := by
  cases use with
  | set name value => exact (h.set? name value).2
  | resolve name => exact (h.resolve name).2
  | forget => exact h.forgetRequired

/-! ## Answers -/

/-- Both registries have the same values. -/
theorem Keeps.value?_eq (name : String) : r.value? name = s.value? name := by
  show (r.canonical[Slider.keyOf name]?).bind (r.values[·]?) = _
  rw [h.canonical]
  by_cases hkey : Slider.keyOf name = Slider.reservedKey
  · rw [if_pos hkey, Option.bind_some, h.values, if_pos rfl]
    unfold Sliders.value?
    rw [if_pos (beq_iff_eq.2 hkey)]
  · rw [if_neg hkey, Sliders.value?_of_not_reserved hkey]
    cases hfind : s.find? (Slider.keyOf name) with
    | none => rfl
    | some e =>
      have hproper := h.wellFormed.proper e ((Sliders.find?_eq_some_iff h.wellFormed).1 hfind).1
      rw [Option.map_some, Option.bind_some, h.values, if_neg hproper.name_ne,
        Sliders.spelled?_of_find? h.wellFormed hfind]

/-- Both registries require the same names. -/
theorem Keeps.isRequired_eq (name : String) : r.isRequired name = s.isRequired name := by
  unfold Registry.isRequired Sliders.isRequired
  rw [h.canonical]
  by_cases hkey : Slider.keyOf name = Slider.reservedKey
  · have hrefused : Sliders.accepts name = false := Sliders.accepts_eq_false_iff.2 (.inl hkey)
    rw [if_pos hkey, Sliders.find?_of_not_accepted h.wellFormed hrefused, Option.any_some,
      h.required, Sliders.spelled?_reservedKey h.wellFormed, Option.any_none]
  · rw [if_neg hkey]
    cases hfind : s.find? (Slider.keyOf name) with
    | none => rfl
    | some e =>
      rw [Option.map_some, Option.any_some, h.required,
        Sliders.spelled?_of_find? h.wellFormed hfind]

/-- What is listed are the required sliders with their values. -/
theorem Keeps.mem_adjustable_iff {entry : String × Int} :
    entry ∈ r.adjustable ↔ entry ∈ s.adjustable := by
  obtain ⟨name, value⟩ := entry
  rw [Sliders.mem_adjustable]
  unfold Registry.adjustable
  simp only [List.mem_mergeSort, List.mem_map, List.mem_filter, Std.TreeSet.mem_toList,
    Std.TreeSet.mem_iff_contains, Prod.mk.injEq]
  constructor
  · rintro ⟨_, ⟨hrequired, -⟩, rfl, rfl⟩
    rw [h.required] at hrequired
    obtain ⟨e, hspelled, hmarked⟩ := Option.any_eq_true _ _ |>.1 hrequired
    obtain ⟨hmem, rfl⟩ := (Sliders.spelled?_eq_some_iff h.wellFormed).1 hspelled
    refine ⟨e, hmem, hmarked, rfl, ?_⟩
    rw [Std.HashMap.getD_eq_getD_getElem?, h.values,
      if_neg (h.wellFormed.proper e hmem).name_ne, hspelled]
    rfl
  · rintro ⟨e, hmem, hrequired, rfl, rfl⟩
    have hspelled := (Sliders.spelled?_eq_some_iff h.wellFormed).2 ⟨hmem, rfl⟩
    have hproper := h.wellFormed.proper e hmem
    refine ⟨e.name, ⟨?_, ?_⟩, rfl, ?_⟩
    · rw [h.required, hspelled]
      exact hrequired
    · rw [Bool.not_eq_true', Bool.eq_false_iff]
      intro hsame
      refine (Slider.accepts_iff.1 hproper.accepted).2 ?_
      unfold Slider.keyOf
      rw [h.trimmed e hmem]
      exact Text.lowercase_of_eqIgnoringCase (by simp [Slider.reservedKey]) rfl hsame
    · rw [Std.HashMap.getD_eq_getD_getElem?, h.values, if_neg hproper.name_ne, hspelled]
      rfl

/-- Listed names have no blanks around them, so their keys are their lower case. -/
theorem Keeps.keyOf_of_mem {entry : String × Int} (hentry : entry ∈ s.adjustable) :
    Slider.keyOf entry.1 = Text.lowercase entry.1 := by
  obtain ⟨e, hmem, -, hname, -⟩ := Sliders.mem_adjustable.1 hentry
  unfold Slider.keyOf
  rw [← hname, h.trimmed e hmem]

/-- The two lists are the same: both are in order, and no name is listed twice. -/
theorem Keeps.adjustable_eq : r.adjustable = s.adjustable := by
  have hkeys : s.adjustable.Pairwise fun p q => Slider.keyOf p.1 < Slider.keyOf q.1 := by
    have hpairs := Sliders.pairwise_adjustableKeys h.wellFormed
    rw [Sliders.adjustableKeys, List.pairwise_map] at hpairs
    exact hpairs
  have hnodup : s.adjustable.Nodup := by
    refine hkeys.imp ?_
    rintro p _ hlt rfl
    exact lt_irrefl _ hlt
  have hnodup' : r.adjustable.Nodup := by
    unfold Registry.adjustable
    rw [(List.mergeSort_perm _ _).nodup_iff]
    have hnames : r.required.toList.Nodup :=
      Std.TreeSet.distinct_toList.imp fun hne hpq => hne (Std.LawfulEqCmp.compare_eq_iff_eq.2 hpq)
    exact (hnames.filter _).map fun _ _ heq => (Prod.mk.inj heq).1
  have hperm : r.adjustable.Perm s.adjustable :=
    (List.perm_ext_iff_of_nodup hnodup' hnodup).2 fun _ => h.mem_adjustable_iff
  have hsorted : r.adjustable.Pairwise fun p q => listedBefore p q = true :=
    List.pairwise_mergeSort listedBefore_trans listedBefore_total _
  have hsorted' : s.adjustable.Pairwise fun p q => listedBefore p q = true := by
    refine hkeys.imp_of_mem fun {p q} hp hq hlt => ?_
    rw [h.keyOf_of_mem hp, h.keyOf_of_mem hq] at hlt
    exact Bool.or_eq_true_iff.2 (.inl (decide_eq_true hlt))
  refine List.Perm.eq_of_pairwise (fun p q hp hq hpq hqp => ?_) hsorted hsorted' hperm
  -- The order alone tells entries apart by their names; one name has one slider, hence one value.
  have hname := listedBefore_antisymm hpq hqp
  obtain ⟨e, hmem, -, he, hvalue⟩ := Sliders.mem_adjustable.1 (h.mem_adjustable_iff.1 hp)
  obtain ⟨e', hmem', -, he', hvalue'⟩ := Sliders.mem_adjustable.1 hq
  have hspelled := (Sliders.spelled?_eq_some_iff h.wellFormed).2 ⟨hmem, he.trans hname⟩
  have hspelled' := (Sliders.spelled?_eq_some_iff h.wellFormed).2 ⟨hmem', he'⟩
  obtain rfl : e = e' := Option.some.inj (hspelled.symm.trans hspelled')
  exact Prod.ext hname (hvalue.symm.trans hvalue')

end Keeps

/-- The same answers to every question about a name, and the same list. -/
structure AnswersLike (r : Registry) (s : Sliders) : Prop where
  value?_eq : ∀ name, r.value? name = s.value? name
  isRequired_eq : ∀ name, r.isRequired name = s.isRequired name
  resolve_eq : ∀ name, (r.resolve name).1 = (s.resolve name).1
  set?_eq : ∀ name value, (r.set? name value).map (·.1) = (s.set? name value).map (·.1)
  adjustable_eq : r.adjustable = s.adjustable

/-- Registries in the simulation cannot be told apart by questions. -/
theorem Keeps.answersLike {r : Registry} {s : Sliders} (h : r.Keeps s) : r.AnswersLike s where
  value?_eq := h.value?_eq
  isRequired_eq := h.isRequired_eq
  resolve_eq name := (h.resolve name).1
  set?_eq name value := (h.set? name value).1
  adjustable_eq := h.adjustable_eq

/-- After any run, the tables say what the sliders say after it. -/
theorem keeps_run (uses : List Sliders.Use) : (run uses).Keeps (Sliders.run uses) := by
  unfold run Sliders.run
  induction uses using List.reverseRecOn with
  | nil => exact keeps_start
  | append_singleton uses use ih =>
    rw [List.foldl_append, List.foldl_append]
    exact ih.apply use

/-- After any run, the registry answers like the sliders. -/
theorem answersLike_run (uses : List Sliders.Use) : (run uses).AnswersLike (Sliders.run uses) :=
  (keeps_run uses).answersLike

end Registry

end Reticle
