import Mathlib.Data.List.Sort
import Mathlib.Data.String.Basic
import Reticle.Proofs.Lines
import Reticle.Formula.Slider

/-!
# What sliders stand for

Sliders are entries in the order in which they were first seen, each with the spelling it was first
seen under. A rule does not see that much of them: it sees the value that a key stands for, and it
marks keys as required. Sliders that agree on both are alike, whatever came before, and they stay
alike whatever a rule does to them.
-/

namespace Reticle

namespace Slider

/-! ## Keys -/

/-- Blanks around a name do not change its key. -/
theorem keyOf_trimmed (name : String) : keyOf (Text.trimmed name) = keyOf name := by
  unfold keyOf
  rw [Text.trimmed_trimmed]

/-- Only the empty text has an empty lower case. -/
theorem lowercase_eq_empty {s : String} : Text.lowercase s = "" ↔ s.toList = [] := by
  unfold Text.lowercase
  cases hs : s.toList with
  | nil => simp [Text.lowercaseAfter]
  | cons c rest =>
    have hne : Text.lowercaseAfter [] (c :: rest) ≠ [] := by
      unfold Text.lowercaseAfter
      simp only [ne_eq, List.append_eq_nil_iff, not_and]
      intro h
      split_ifs at h
    simp [hne]

/-- Only a blank name has an empty key. -/
theorem keyOf_eq_empty {name : String} : keyOf name = "" ↔ Text.isBlankText name = true := by
  unfold keyOf Text.trimmed Text.isBlankText
  rw [lowercase_eq_empty, String.toList_ofList]
  unfold Text.trim Text.trimEnd
  rw [List.reverse_eq_nil_iff, List.dropWhile_eq_nil_iff, List.all_eq_true]
  constructor
  · intro h c hc
    by_cases hstart : c ∈ Text.trimStart name.toList
    · exact h c (List.mem_reverse.2 hstart)
    · have hsplit := List.takeWhile_append_dropWhile (p := Text.isBlank) (l := name.toList)
      rw [← hsplit, List.mem_append] at hc
      rcases hc with hc | hc
      · exact List.mem_takeWhile_imp hc
      · exact absurd hc hstart
  · intro h c hc
    exact h c (List.dropWhile_subset _ (List.mem_reverse.1 hc))

/-- A name is accepted when its key is neither empty nor reserved. -/
theorem accepts_iff {name : String} :
    Sliders.accepts name = true ↔ keyOf name ≠ "" ∧ keyOf name ≠ reservedKey := by
  unfold Sliders.accepts
  rw [Bool.and_eq_true, Bool.not_eq_true', bne_iff_ne, ne_eq (keyOf name) "", keyOf_eq_empty,
    Bool.not_eq_true]

/-- A clamped value is within the limits already. -/
theorem clamp_clamp (value : Int) : clamp (clamp value) = clamp value := by
  unfold clamp least greatest
  omega

/-- A slider has the key of its name, which can belong to a slider, and a value in the range of
sliders. -/
structure Proper (e : Slider) : Prop where
  accepted : Sliders.accepts e.name = true
  keyOf_name : keyOf e.name = e.key
  clamped : clamp e.value = e.value

end Slider

namespace Sliders

/-! ## Values and requirements -/

/-- The value that a key stands for; one that was never seen stands for the initial value. -/
def valueOf (s : Sliders) (key : String) : Int :=
  ((s.find? key).map (·.value)).getD Slider.initial

/-- Whether a key is required. -/
def requires (s : Sliders) (key : String) : Bool :=
  (s.find? key).any (·.required)

/-- Every key stands for the same value. -/
def SameValues (s t : Sliders) : Prop :=
  ∀ key, s.valueOf key = t.valueOf key

/-- Every key stands for the same value, and the same keys are required. -/
structure Alike (s t : Sliders) : Prop where
  values : s.SameValues t
  requires : ∀ key, s.requires key = t.requires key

/-- No key occurs twice, and every slider is proper. -/
structure WellFormed (s : Sliders) : Prop where
  keys_nodup : (s.entries.map (·.key)).Nodup
  proper : ∀ e ∈ s.entries, e.Proper

/-- Without sliders the registry is well formed. -/
theorem wellFormed_empty : empty.WellFormed :=
  ⟨List.nodup_nil, fun _ h => absurd h List.not_mem_nil⟩

/-- A key finds the slider that has it, and there is one at most. -/
theorem find?_eq_some_iff {s : Sliders} (h : s.WellFormed) {key : String} {e : Slider} :
    s.find? key = some e ↔ e ∈ s.entries ∧ e.key = key := by
  unfold find?
  constructor
  · intro hfind
    exact ⟨List.mem_of_find?_eq_some hfind, by simpa using List.find?_some hfind⟩
  · rintro ⟨hmem, rfl⟩
    have hsome : (s.entries.find? (·.key == e.key)).isSome := by
      rw [List.find?_isSome]
      exact ⟨e, hmem, by simp⟩
    obtain ⟨e', he'⟩ := Option.isSome_iff_exists.1 hsome
    have hkey : e'.key = e.key := by simpa using List.find?_some he'
    have hsame : e' = e :=
      List.inj_on_of_nodup_map h.keys_nodup (List.mem_of_find?_eq_some he') hmem hkey
    rw [he', hsame]

/-- There is no slider with a name that no slider can have. -/
theorem find?_of_not_accepted {s : Sliders} (h : s.WellFormed) {name : String}
    (hname : accepts name = false) : s.find? (Slider.keyOf name) = none := by
  cases hfind : s.find? (Slider.keyOf name) with
  | none => rfl
  | some e =>
    exfalso
    obtain ⟨hmem, hkey⟩ := (find?_eq_some_iff h).1 hfind
    have hproper := h.proper e hmem
    have haccepted := Slider.accepts_iff.1 hproper.accepted
    rw [hproper.keyOf_name, hkey] at haccepted
    rw [Slider.accepts_iff.2 haccepted] at hname
    exact Bool.noConfusion hname

/-- Names that no slider can have stand for the initial value. -/
theorem valueOf_of_not_accepted {s : Sliders} (h : s.WellFormed) {name : String}
    (hname : accepts name = false) : s.valueOf (Slider.keyOf name) = Slider.initial := by
  unfold valueOf
  rw [find?_of_not_accepted h hname]
  rfl

/-- A name that is not reserved has the value of its slider. -/
theorem value?_of_not_reserved {s : Sliders} {name : String}
    (hname : Slider.keyOf name ≠ Slider.reservedKey) :
    s.value? name = (s.find? (Slider.keyOf name)).map (·.value) := by
  unfold value?
  rw [if_neg (by simpa using hname)]

/-- The value under a key is that of every accepted name with the key. -/
theorem valueOf_of_value? {s : Sliders} {name : String} {value : Int}
    (hname : accepts name = true) (h : s.value? name = some value) :
    s.valueOf (Slider.keyOf name) = value := by
  rw [value?_of_not_reserved (Slider.accepts_iff.1 hname).2] at h
  unfold valueOf
  rw [h, Option.getD_some]

/-- The values that are held are within the limits. -/
theorem clamp_valueOf {s : Sliders} (h : s.WellFormed) (key : String) :
    Slider.clamp (s.valueOf key) = s.valueOf key := by
  unfold valueOf
  cases hfind : s.find? key with
  | none => rfl
  | some e => exact (h.proper e ((find?_eq_some_iff h).1 hfind).1).clamped

/-! ## Changing one slider -/

section Modify

variable (change : Slider → Slider) (hkey : ∀ e, (change e).key = e.key)
include hkey

/-- A change under one key is found there and nowhere else. -/
theorem find?_map_modify (entries : List Slider) (key k : String) :
    (entries.map fun e => if e.key == key then change e else e).find? (·.key == k) =
      (entries.find? (·.key == k)).map fun e => if k = key then change e else e := by
  rw [List.find?_map]
  have hpred : ((fun e : Slider => e.key == k) ∘ fun e => if e.key == key then change e else e) =
      fun e => e.key == k := by
    funext e
    by_cases he : e.key = key <;> simp [he, hkey]
  rw [hpred]
  cases hfind : entries.find? (·.key == k) with
  | none => rfl
  | some e =>
    have hek : e.key = k := by simpa using List.find?_some hfind
    simp [hek]

/-- Only the slider of one key changes, and afterwards there is one. -/
theorem find?_modify (s : Sliders) (key name k : String) :
    (s.modify key name change).find? k =
      if k = key then some (change ((s.find? key).getD ⟨key, name, Slider.initial, false⟩))
      else s.find? k := by
  unfold modify
  cases hfind : s.find? key with
  | some e =>
    unfold find? at hfind ⊢
    rw [Option.isSome_some, if_pos rfl, find?_map_modify change hkey]
    by_cases hk : k = key
    · simp [hk, hfind]
    · simp [hk]
  | none =>
    unfold find? at hfind ⊢
    rw [Option.isSome_none, if_neg Bool.false_ne_true, List.find?_append]
    by_cases hk : k = key
    · simp [hk, hfind, hkey]
    · have hnot : (key == k) = false := by simpa using Ne.symm hk
      simp [hk, hkey, hnot]

/-- A change keeps the keys, and adds its own at the end if it is new. -/
theorem keys_modify (s : Sliders) (key name : String) :
    (s.modify key name change).entries.map (·.key) =
      s.entries.map (·.key) ++ if (s.find? key).isSome then [] else [key] := by
  unfold modify
  by_cases hsome : (s.find? key).isSome = true
  · rw [if_pos hsome, if_pos hsome, List.append_nil, List.map_map]
    apply List.map_congr_left
    intro e _
    by_cases he : e.key = key <;> simp [he, hkey]
  · rw [if_neg hsome, if_neg hsome, List.map_append]
    simp [hkey]

/-- A change that keeps sliders proper keeps the registry well formed. -/
theorem WellFormed.modify {s : Sliders} (h : s.WellFormed) {name : String}
    (hname : accepts name = true) (hproper : ∀ e : Slider, e.Proper → (change e).Proper) :
    (s.modify (Slider.keyOf name) (Text.trimmed name) change).WellFormed := by
  have hadded : Slider.Proper ⟨Slider.keyOf name, Text.trimmed name, Slider.initial, false⟩ := by
    refine ⟨?_, Slider.keyOf_trimmed name, rfl⟩
    rw [Slider.accepts_iff] at hname ⊢
    rw [Slider.keyOf_trimmed]
    exact hname
  refine ⟨?_, ?_⟩
  · rw [keys_modify change hkey]
    cases hfind : s.find? (Slider.keyOf name) with
    | some e => simpa using h.keys_nodup
    | none =>
      -- A slider is added only where its key was not found.
      have hnew : Slider.keyOf name ∉ s.entries.map (·.key) := by
        intro hmem
        obtain ⟨e, he, hek⟩ := List.mem_map.1 hmem
        rw [(find?_eq_some_iff h).2 ⟨he, hek⟩] at hfind
        simp at hfind
      rw [Option.isSome_none, if_neg Bool.false_ne_true]
      exact h.keys_nodup.append (List.nodup_singleton _) (List.disjoint_singleton.2 hnew)
  · intro e he
    unfold Sliders.modify at he
    split at he
    · obtain ⟨e', he', rfl⟩ := List.mem_map.1 he
      have hp := h.proper e' he'
      split
      · exact hproper e' hp
      · exact hp
    · rcases List.mem_append.1 he with he | he
      · exact h.proper e he
      · rw [List.mem_singleton.1 he]
        exact hproper _ hadded

end Modify

/-! ## What the operations do to values and requirements -/

/-- A change that keeps values changes no value, also where it adds a slider. -/
theorem valueOf_modify (change : Slider → Slider) (hkey : ∀ e, (change e).key = e.key)
    (hvalue : ∀ e, (change e).value = e.value) (s : Sliders) (key name k : String) :
    (s.modify key name change).valueOf k = s.valueOf k := by
  unfold valueOf
  rw [find?_modify change hkey]
  by_cases hk : k = key
  · rw [if_pos hk, hk]
    cases s.find? key <;> simp [hvalue]
  · rw [if_neg hk]

/-- Requiring a name changes no value. -/
theorem valueOf_require (s : Sliders) (name k : String) :
    (s.require name).valueOf k = s.valueOf k := by
  unfold require
  split
  · exact valueOf_modify (fun e => { e with required := true }) (fun _ => rfl) (fun _ => rfl) s _ _ k
  · rfl

/-- Requiring an accepted name adds its key to those required, and nothing else. -/
theorem requires_require (s : Sliders) (name k : String) :
    (s.require name).requires k = (s.requires k || (accepts name && k == Slider.keyOf name)) := by
  unfold require
  split
  · next hname =>
    unfold requires
    rw [find?_modify (fun e => { e with required := true }) (fun _ => rfl)]
    by_cases hk : k = Slider.keyOf name
    · simp [hk, hname]
    · simp [hk]
  · next hname => simp [hname]

/-- Requiring a name marks the slider of its key, which is added if there is none. -/
theorem find?_require (s : Sliders) (name k : String) :
    (s.require name).find? k =
      if (accepts name && Slider.keyOf name == k) = true then
        some { (s.find? k).getD ⟨k, Text.trimmed name, Slider.initial, false⟩ with required := true }
      else s.find? k := by
  unfold require
  by_cases hname : accepts name = true
  · rw [if_pos hname, find?_modify (fun e => { e with required := true }) (fun _ => rfl)]
    by_cases hk : k = Slider.keyOf name
    · simp [hk, hname]
    · simp [hk, hname, Ne.symm hk]
  · simp [hname]

/-- Names that are required one after the other leave each key with its slider, which the first
name of that key added if there was none. -/
theorem find?_foldl_require (names : List String) (s : Sliders) (k : String) :
    (names.foldl require s).find? k =
      match names.find? fun name => accepts name && Slider.keyOf name == k with
      | some name =>
        some { (s.find? k).getD ⟨k, Text.trimmed name, Slider.initial, false⟩ with required := true }
      | none => s.find? k := by
  induction names generalizing s with
  | nil => rfl
  | cons name names ih =>
    rw [List.foldl_cons, ih, find?_require, List.find?_cons]
    cases hname : accepts name && Slider.keyOf name == k with
    | true => cases names.find? fun name => accepts name && Slider.keyOf name == k <;> rfl
    | false => rfl

/-- What a rule gets for a name: the reserved value, or the value that its key stands for. -/
theorem fst_resolve (s : Sliders) (name : String) :
    (s.resolve name).1 =
      if Slider.keyOf name = Slider.reservedKey then Slider.reservedValue
      else s.valueOf (Slider.keyOf name) := by
  rw [← valueOf_require s name]
  unfold resolve value? valueOf
  by_cases hreserved : Slider.keyOf name = Slider.reservedKey <;> simp [hreserved]

/-- Forgetting what is required changes no value. -/
theorem valueOf_forgetRequired (s : Sliders) (k : String) :
    s.forgetRequired.valueOf k = s.valueOf k := by
  unfold valueOf find? forgetRequired
  rw [List.find?_map]
  unfold Function.comp
  cases s.entries.find? (·.key == k) <;> rfl

/-- After forgetting nothing is required. -/
theorem requires_forgetRequired (s : Sliders) (k : String) :
    s.forgetRequired.requires k = false := by
  unfold requires find? forgetRequired
  rw [List.find?_map]
  unfold Function.comp
  cases s.entries.find? (·.key == k) <;> rfl

/-- Setting a name changes the value under its key only, to the clamped one. -/
theorem valueOf_of_set? {s s' : Sliders} {name : String} {value stored : Int}
    (h : s.set? name value = some (stored, s')) (k : String) :
    s'.valueOf k = if k = Slider.keyOf name then Slider.clamp value else s.valueOf k := by
  unfold set? at h
  split at h
  · obtain ⟨rfl, rfl⟩ := Prod.mk.inj (Option.some.inj h)
    unfold valueOf
    rw [find?_modify (fun e => { e with value := Slider.clamp value }) (fun _ => rfl)]
    by_cases hk : k = Slider.keyOf name <;> simp [hk]
  · simp at h

/-- A registry has the values that it has. -/
theorem SameValues.refl (s : Sliders) : s.SameValues s :=
  fun _ => rfl

/-- Having the same values is symmetric. -/
theorem SameValues.symm {s t : Sliders} (h : s.SameValues t) : t.SameValues s :=
  fun key => (h key).symm

/-- Having the same values is transitive. -/
theorem SameValues.trans {s t u : Sliders} (h : s.SameValues t) (h' : t.SameValues u) :
    s.SameValues u :=
  fun key => (h key).trans (h' key)

/-- Requiring a name keeps the values. -/
theorem sameValues_require (s : Sliders) (name : String) : (s.require name).SameValues s :=
  valueOf_require s name

/-- Sliders that agree on values are alike once no key is required. -/
theorem SameValues.forgetRequired {s t : Sliders} (h : s.SameValues t) :
    s.forgetRequired.Alike t.forgetRequired where
  values k := by rw [valueOf_forgetRequired, valueOf_forgetRequired, h k]
  requires k := by rw [requires_forgetRequired, requires_forgetRequired]

/-- A name resolves to the same value where the values are the same. -/
theorem SameValues.fst_resolve {s t : Sliders} (h : s.SameValues t) (name : String) :
    (s.resolve name).1 = (t.resolve name).1 := by
  rw [Sliders.fst_resolve, Sliders.fst_resolve, h]

/-- Registries that are alike stay so when the same name is required in both. -/
theorem Alike.require {s t : Sliders} (h : s.Alike t) (name : String) :
    (s.require name).Alike (t.require name) where
  values k := by rw [valueOf_require, valueOf_require, h.values k]
  requires k := by rw [requires_require, requires_require, h.requires k]

/-- Requiring a name keeps the registry well formed. -/
theorem WellFormed.require {s : Sliders} (h : s.WellFormed) (name : String) :
    (s.require name).WellFormed := by
  unfold Sliders.require
  split
  · next hname =>
    exact h.modify (fun e => { e with required := true }) (fun _ => rfl) hname
      fun e he => ⟨he.accepted, he.keyOf_name, he.clamped⟩
  · exact h

/-- Forgetting what is required keeps the registry well formed. -/
theorem WellFormed.forgetRequired {s : Sliders} (h : s.WellFormed) :
    s.forgetRequired.WellFormed := by
  refine ⟨?_, ?_⟩
  · unfold Sliders.forgetRequired
    rw [List.map_map]
    exact h.keys_nodup
  · intro e he
    obtain ⟨e', he', rfl⟩ := List.mem_map.1 he
    have hp := h.proper e' he'
    exact ⟨hp.accepted, hp.keyOf_name, hp.clamped⟩

/-- Setting a name keeps the registry well formed. -/
theorem WellFormed.of_set? {s s' : Sliders} (h : s.WellFormed) {name : String}
    {value stored : Int} (hset : s.set? name value = some (stored, s')) : s'.WellFormed := by
  unfold set? at hset
  split at hset
  · next hname =>
    obtain ⟨rfl, rfl⟩ := Prod.mk.inj (Option.some.inj hset)
    exact h.modify (fun e => { e with value := Slider.clamp value }) (fun _ => rfl) hname
      fun e he => ⟨he.accepted, he.keyOf_name, Slider.clamp_clamp value⟩
  · simp at hset

/-! ## The adjustable sliders -/

/-- What is listed are the required sliders, by name and with their values. -/
theorem mem_adjustable {s : Sliders} {name : String} {value : Int} :
    (name, value) ∈ s.adjustable ↔
      ∃ e ∈ s.entries, e.required = true ∧ e.name = name ∧ e.value = value := by
  unfold adjustable
  simp only [List.mem_map, List.mem_mergeSort, List.mem_filter, Prod.mk.injEq, and_assoc]

/-- The adjustable sliders, told apart by their keys and not by their spelling. -/
def adjustableKeys (s : Sliders) : List (String × Int) :=
  s.adjustable.map fun (name, value) => (Slider.keyOf name, value)

/-- Listed by their keys, the required sliders are in the order of the keys. -/
theorem adjustableKeys_eq {s : Sliders} (h : s.WellFormed) :
    s.adjustableKeys = ((s.entries.filter (·.required)).mergeSort
      fun a b => decide (a.key ≤ b.key)).map fun e => (e.key, e.value) := by
  unfold adjustableKeys adjustable
  rw [List.map_map]
  apply List.map_congr_left
  intro e he
  have hmem : e ∈ s.entries := List.mem_of_mem_filter (List.mem_mergeSort.1 he)
  simp [(h.proper e hmem).keyOf_name]

/-- The listed keys are the required ones, with their values. -/
theorem mem_adjustableKeys {s : Sliders} (h : s.WellFormed) {key : String} {value : Int} :
    (key, value) ∈ s.adjustableKeys ↔ s.requires key = true ∧ s.valueOf key = value := by
  rw [adjustableKeys_eq h]
  unfold requires valueOf
  simp only [List.mem_map, List.mem_mergeSort, List.mem_filter, Prod.mk.injEq]
  constructor
  · rintro ⟨e, ⟨hmem, hrequired⟩, hkey, hvalue⟩
    rw [(find?_eq_some_iff h).2 ⟨hmem, hkey⟩]
    exact ⟨hrequired, hvalue⟩
  · rintro ⟨hrequired, hvalue⟩
    cases hfind : s.find? key with
    | none => simp [hfind] at hrequired
    | some e =>
      rw [hfind] at hrequired hvalue
      obtain ⟨hmem, hkey⟩ := (find?_eq_some_iff h).1 hfind
      exact ⟨e, ⟨hmem, hrequired⟩, hkey, hvalue⟩

/-- The listed keys are strictly ascending. -/
theorem pairwise_adjustableKeys {s : Sliders} (h : s.WellFormed) :
    s.adjustableKeys.Pairwise fun p q => p.1 < q.1 := by
  rw [adjustableKeys_eq h, List.pairwise_map]
  have hle : ((s.entries.filter (·.required)).mergeSort
      fun a b => decide (a.key ≤ b.key)).Pairwise fun a b => decide (a.key ≤ b.key) = true := by
    refine List.pairwise_mergeSort ?_ ?_ _
    · intro a b c hab hbc
      exact decide_eq_true (le_trans (of_decide_eq_true hab) (of_decide_eq_true hbc))
    · intro a b
      simpa using le_total a.key b.key
  have hnodup : ((s.entries.filter (·.required)).map (·.key)).Nodup :=
    h.keys_nodup.sublist (List.filter_sublist.map _)
  have hne : ((s.entries.filter (·.required)).mergeSort
      fun a b => decide (a.key ≤ b.key)).Pairwise fun a b => a.key ≠ b.key := by
    have hperm := (List.mergeSort_perm (s.entries.filter (·.required))
      fun a b => decide (a.key ≤ b.key)).map (·.key)
    exact List.pairwise_map.1 (hperm.nodup_iff.2 hnodup)
  refine (hle.and hne).imp ?_
  rintro a b ⟨hab, hkey⟩
  exact lt_of_le_of_ne (of_decide_eq_true hab) hkey

/-- Sliders that require the same keys, with the same values, show the same adjustable sliders, up to
spelling. -/
theorem adjustableKeys_eq_of_requires {s t : Sliders} (hs : s.WellFormed) (ht : t.WellFormed)
    (hrequires : ∀ key, s.requires key = t.requires key)
    (hvalues : ∀ key, s.requires key = true → s.valueOf key = t.valueOf key) :
    s.adjustableKeys = t.adjustableKeys := by
  have : Std.Irrefl fun p q : String × Int => p.1 < q.1 := ⟨fun _ => lt_irrefl _⟩
  have : Std.Antisymm fun p q : String × Int => p.1 < q.1 :=
    ⟨fun _ _ hpq hqp => absurd hqp (lt_asymm hpq)⟩
  refine (pairwise_adjustableKeys hs).eq_of_mem_iff (pairwise_adjustableKeys ht) ?_
  rintro ⟨key, value⟩
  rw [mem_adjustableKeys hs, mem_adjustableKeys ht, ← hrequires]
  exact and_congr_right fun hrequired => by rw [hvalues key hrequired]

/-- Registries that are alike list the same keys with the same values. -/
theorem Alike.adjustableKeys_eq {s t : Sliders} (h : s.Alike t) (hs : s.WellFormed)
    (ht : t.WellFormed) : s.adjustableKeys = t.adjustableKeys :=
  adjustableKeys_eq_of_requires hs ht h.requires fun key _ => h.values key

end Sliders

end Reticle
