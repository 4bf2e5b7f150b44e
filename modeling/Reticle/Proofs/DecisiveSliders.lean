import Reticle.Proofs.SettledSessions

/-!
# The sliders that decide

Which fields of a rule are read can depend on slider values: a later field is read only when an
earlier one has no value. So the sliders that a rule depends on are found out by rendering it. The
sliders that are adjustable afterwards are all of them (`render_of_adjustable`): as long as no other
key becomes required, sliders that agree on these keys cannot be told apart by resolving names.
-/

namespace Reticle

namespace Sliders

/-! ## Agreement on some keys -/

/-- Only given keys are required. -/
def RequiresWithin (keys : String → Prop) (s : Sliders) : Prop :=
  ∀ key, s.requires key = true → keys key

/-- Well-formed sliders with the same requirements that agree on the values of some keys. -/
structure AgreeOn (keys : String → Prop) (s t : Sliders) : Prop where
  values : ∀ key, keys key → s.valueOf key = t.valueOf key
  requires : ∀ key, s.requires key = t.requires key
  left : s.WellFormed
  right : t.WellFormed

/-- Requiring a name takes nothing off the requirements before. -/
theorem requiresWithin_of_require {keys : String → Prop} {s : Sliders} {name : String}
    (h : (s.require name).RequiresWithin keys) : s.RequiresWithin keys := by
  intro key hkey
  apply h key
  rw [requires_require, hkey, Bool.true_or]

/-- A name that is resolved within bounds is reserved, is blank, or has a key on which there is
agreement. -/
theorem AgreeOn.fst_resolve {keys : String → Prop} {s t : Sliders} (h : AgreeOn keys s t)
    {name : String} (hend : (s.require name).RequiresWithin keys) :
    (s.resolve name).1 = (t.resolve name).1 := by
  rw [Sliders.fst_resolve, Sliders.fst_resolve]
  by_cases hname : accepts name = true
  · have hkey : keys (Slider.keyOf name) := by
      apply hend
      rw [requires_require, hname, beq_self_eq_true, Bool.and_self, Bool.or_true]
    rw [h.values _ hkey]
  · have hrefused : accepts name = false := Bool.eq_false_iff.2 hname
    rw [valueOf_of_not_accepted h.left hrefused, valueOf_of_not_accepted h.right hrefused]

/-- Registries that agree still do so when the same name is required in both. -/
theorem AgreeOn.require {keys : String → Prop} {s t : Sliders} (h : AgreeOn keys s t)
    (name : String) : AgreeOn keys (s.require name) (t.require name) where
  values key hkey := by rw [valueOf_require, valueOf_require, h.values key hkey]
  requires key := by rw [requires_require, requires_require, h.requires key]
  left := h.left.require name
  right := h.right.require name

/-- Resolving a name among the keys does not tell registries apart that agree on them. -/
theorem congruent_agreeOn (keys : String → Prop) :
    Congruent (AgreeOn keys) (RequiresWithin keys) :=
  fun name => ⟨fun _ => requiresWithin_of_require,
    fun _ _ hend h => ⟨h.fst_resolve hend, h.require name⟩⟩

/-! ## Names of adjustable sliders -/

/-- The value of an accepted name, the initial one where nothing was set. -/
theorem value?_getD {s : Sliders} {name : String} (hname : accepts name = true) :
    (s.value? name).getD Slider.initial = s.valueOf (Slider.keyOf name) := by
  rw [value?_of_not_reserved (Slider.accepts_iff.1 hname).2]
  rfl

/-- Every listed name is an accepted one. -/
theorem accepts_of_mem_adjustable {s : Sliders} (h : s.WellFormed) {entry : String × Int}
    (hentry : entry ∈ s.adjustable) : accepts entry.1 = true := by
  obtain ⟨e, he, rfl⟩ := List.mem_map.1 hentry
  exact (h.proper e (List.mem_of_mem_filter (List.mem_mergeSort.1 he))).accepted

/-- Every required key is the key of a listed name. -/
theorem exists_mem_adjustable {s : Sliders} (h : s.WellFormed) {key : String}
    (hkey : s.requires key = true) : ∃ entry ∈ s.adjustable, Slider.keyOf entry.1 = key := by
  have hmem : (key, s.valueOf key) ∈ s.adjustableKeys := (mem_adjustableKeys h).2 ⟨hkey, rfl⟩
  unfold adjustableKeys at hmem
  obtain ⟨⟨name, value⟩, hentry, heq⟩ := List.mem_map.1 hmem
  exact ⟨(name, value), hentry, (Prod.mk.inj heq).1⟩

end Sliders

/-! ## Rendering -/

/-- The adjustable sliders after a rendering are all that matter for it. Sliders that give each of
their names the same value, where a name that was never seen counts as zero, give the same outcome:
the same error, or the same mode, warnings and scenario, which holds the summary and the answers on
every board. They also make the same sliders adjustable, up to the case of letters and with the same
values. The reserved name is never among them. -/
theorem render_of_adjustable (text : String) (grid : Grid) (options : RenderOptions) {s t : Sliders}
    (hs : s.WellFormed) (ht : t.WellFormed)
    (h : ∀ entry ∈ (render text grid s options).2.adjustable,
      (t.value? entry.1).getD Slider.initial = (s.value? entry.1).getD Slider.initial) :
    (render text grid t options).1 = (render text grid s options).1 ∧
      (render text grid t options).2.adjustableKeys =
        (render text grid s options).2.adjustableKeys ∧
      ∀ entry ∈ (render text grid s options).2.adjustable,
        Slider.keyOf entry.1 ≠ Slider.reservedKey := by
  obtain ⟨hafter, -⟩ := wellFormed_render text grid options hs
  have haccepts : ∀ entry ∈ (render text grid s options).2.adjustable,
      Sliders.accepts entry.1 = true := fun _ => Sliders.accepts_of_mem_adjustable hafter
  -- The keys that the first rendering requires are those on which the sliders have to agree.
  let keys key := (render text grid s options).2.requires key = true
  have hagree : Sliders.AgreeOn keys s.forgetRequired t.forgetRequired := by
    refine ⟨fun key hkey => ?_, fun key => ?_, hs.forgetRequired, ht.forgetRequired⟩
    · obtain ⟨entry, hentry, rfl⟩ := Sliders.exists_mem_adjustable hafter hkey
      have hvalue := h entry hentry
      rw [Sliders.value?_getD (haccepts entry hentry),
        Sliders.value?_getD (haccepts entry hentry)] at hvalue
      rw [Sliders.valueOf_forgetRequired, Sliders.valueOf_forgetRequired, hvalue]
    · rw [Sliders.requires_forgetRequired, Sliders.requires_forgetRequired]
  have hend : (render text grid s options).2.RequiresWithin keys := fun _ => id
  obtain ⟨houtcome, hrest⟩ := blind_render_of_sameFields (Sliders.congruent_agreeOn keys) rfl
    (Rule.SameFields.refl (Rule.ofText text)) rfl grid options hend hagree
  refine ⟨houtcome.symm, ?_, fun entry hentry => ?_⟩
  · exact (Sliders.adjustableKeys_eq_of_requires hrest.left hrest.right hrest.requires
      hrest.values).symm
  · exact (Slider.accepts_iff.1 (haccepts entry hentry)).2

/-- A rule in which the second radius is read only when the first has no value. -/
def exampleRadii : String :=
  "target_mode direction\nmax_range 3\naoe_radius Depth / depth\nmax_aoe_radius reach"

/-- Sliders in which `depth` has a value, so that the first radius does as well. -/
def exampleDeep : Sliders :=
  ⟨[⟨"depth", "depth", 2, false⟩]⟩

/-- Sliders with the same value of `depth`, in another spelling, and some value of `reach`. -/
def exampleReached : Sliders :=
  ⟨[⟨"reach", "Reach", 7, true⟩, ⟨"depth", "DEPTH", 2, false⟩]⟩

/-- The example rule does not depend on `reach` as long as `depth` is not zero. -/
theorem render_of_adjustable_example :
    (render exampleRadii (.ofSide 7) exampleDeep .standard).2.adjustable = [("depth", 2)] ∧
    (render exampleRadii (.ofSide 7) exampleReached .standard).1 =
      (render exampleRadii (.ofSide 7) exampleDeep .standard).1 ∧
    (render exampleRadii (.ofSide 7) exampleReached .standard).2.adjustableKeys =
      (render exampleRadii (.ofSide 7) exampleDeep .standard).2.adjustableKeys := by
  have hadjustable : (render exampleRadii (.ofSide 7) exampleDeep .standard).2.adjustable =
      [("depth", 2)] := by decide +kernel
  have hdeep : exampleDeep.WellFormed := by
    refine ⟨by decide, fun e he => ?_⟩
    rw [List.mem_singleton.1 he]
    exact ⟨by decide +kernel, by decide +kernel, rfl⟩
  have hreached : exampleReached.WellFormed := by
    refine ⟨by decide, fun e he => ?_⟩
    rcases List.mem_cons.1 he with rfl | he
    · exact ⟨by decide +kernel, by decide +kernel, rfl⟩
    · rw [List.mem_singleton.1 he]
      exact ⟨by decide +kernel, by decide +kernel, rfl⟩
  obtain ⟨houtcome, hkeys, -⟩ := render_of_adjustable exampleRadii (.ofSide 7) .standard hdeep
    hreached (by rw [hadjustable]; decide +kernel)
  exact ⟨hadjustable, houtcome, hkeys⟩

end Reticle
