import Mathlib.GroupTheory.GroupAction.Defs
import Reticle.Area.Offset
import Reticle.Proofs.WholeNumbers

/-!
# Symmetries complete orbits

A symmetry is a group of maps of the plane, generated by a quarter turn or by a quarter turn and
the exchange of rows and columns. Completing a list of offsets under it lists their orbits, each
value once (`symmetrize_lists_orbits`). The list grows by whole turns: an offset of which the value
is on the list adds nothing, and any other adds all of its turns (`completed_concat`). So a list
that is complete is completed to itself, offset by offset and in the same order
(`completed_completed`).
-/

namespace Reticle

/-! ## Values of offsets -/

namespace Offset

/-- An offset of finite rows and columns. -/
structure IsFinite (o : Offset) : Prop where
  row : o.row.isFinite = true
  col : o.col.isFinite = true

/-- The rows and columns of a finite offset. -/
def value (o : Offset) : Rat × Rat :=
  (Number.value o.row, Number.value o.col)

end Offset

/-! ## The groups -/

namespace Symmetry

/-- The quarter turn of the plane. -/
def turn : Equiv.Perm (Rat × Rat) where
  toFun v := (-v.2, v.1)
  invFun v := (v.2, -v.1)
  left_inv v := by simp
  right_inv v := by simp

/-- Rows and columns exchanged. -/
def swap : Equiv.Perm (Rat × Rat) :=
  Equiv.prodComm Rat Rat

/-- The maps of the plane under which a list of offsets is completed. -/
def group : Symmetry → Subgroup (Equiv.Perm (Rat × Rat))
  | identity => ⊥
  | fourWay => Subgroup.closure {turn}
  | eightWay => Subgroup.closure {turn, swap}

/-- The images of a point under quarter turns. -/
def turned (v : Rat × Rat) : List (Rat × Rat) :=
  [v, turn v, turn (turn v), turn (turn (turn v))]

variable {u v w : Rat × Rat}

/-- The four turns of a point, in coordinates. -/
theorem mem_turned_iff {a b c d : Rat} :
    (c, d) ∈ turned (a, b) ↔
      (c = a ∧ d = b) ∨ (c = -b ∧ d = a) ∨ (c = -a ∧ d = -b) ∨ (c = b ∧ d = -a) := by
  simp [turned, turn]

/-- A point is among its turns. -/
theorem mem_turned_self (v : Rat × Rat) : v ∈ turned v :=
  List.mem_cons_self

/-- Being a turn of each other is symmetric. -/
theorem mem_turned_symm (h : w ∈ turned v) : v ∈ turned w := by
  obtain ⟨a, b⟩ := v
  obtain ⟨c, d⟩ := w
  rcases mem_turned_iff.1 h with ⟨rfl, rfl⟩ | ⟨rfl, rfl⟩ | ⟨rfl, rfl⟩ | ⟨rfl, rfl⟩ <;>
    simp [mem_turned_iff]

/-- A turn of a turn is a turn. -/
theorem mem_turned_trans (hv : v ∈ turned u) (hw : w ∈ turned v) : w ∈ turned u := by
  obtain ⟨a, b⟩ := u
  obtain ⟨c, d⟩ := v
  obtain ⟨e, f⟩ := w
  rcases mem_turned_iff.1 hv with ⟨rfl, rfl⟩ | ⟨rfl, rfl⟩ | ⟨rfl, rfl⟩ | ⟨rfl, rfl⟩ <;>
    simpa [mem_turned_iff, or_comm, or_left_comm] using hw

/-- Transposing carries turns to turns. -/
theorem swap_mem_turned (h : w ∈ turned v) : swap w ∈ turned (swap v) := by
  obtain ⟨a, b⟩ := v
  obtain ⟨c, d⟩ := w
  rcases mem_turned_iff.1 h with ⟨rfl, rfl⟩ | ⟨rfl, rfl⟩ | ⟨rfl, rfl⟩ | ⟨rfl, rfl⟩ <;>
    simp [mem_turned_iff, swap]

/-- A relation that has the generators has the whole group, if it is an equivalence. -/
theorem rel_of_mem_closure {R : Rat × Rat → Rat × Rat → Prop} (hR : Equivalence R)
    {generators : Set (Equiv.Perm (Rat × Rat))} (hmem : ∀ g ∈ generators, ∀ v, R v (g v))
    {g : Equiv.Perm (Rat × Rat)} (hg : g ∈ Subgroup.closure generators) (v : Rat × Rat) :
    R v (g v) := by
  induction hg using Subgroup.closure_induction generalizing v with
  | mem g hg => exact hmem g hg v
  | one => exact hR.refl v
  | mul g g' _ _ ih ih' => exact hR.trans (ih' v) (ih (g' v))
  | inv g _ ih => exact hR.symm (by simpa using ih (g⁻¹ v))

/-- A group that holds the quarter turn holds all turns. -/
theorem mem_orbit_of_mem_turned {S : Subgroup (Equiv.Perm (Rat × Rat))} (hS : turn ∈ S)
    (h : w ∈ turned v) : w ∈ MulAction.orbit S v := by
  have hpower : ∀ n : Nat, (turn ^ n) v ∈ MulAction.orbit S v := fun n =>
    ⟨⟨turn ^ n, S.pow_mem hS n⟩, rfl⟩
  simp only [turned, List.mem_cons, List.not_mem_nil, or_false] at h
  rcases h with rfl | rfl | rfl | rfl
  · exact hpower 0
  · exact hpower 1
  · exact hpower 2
  · exact hpower 3

/-- In the four-way symmetry the orbit of a point is its turns. -/
theorem mem_orbit_fourWay_iff : w ∈ MulAction.orbit (group fourWay) v ↔ w ∈ turned v := by
  constructor
  · rintro ⟨⟨g, hg⟩, rfl⟩
    have hturned : Equivalence fun v w => w ∈ turned v :=
      ⟨mem_turned_self, mem_turned_symm, mem_turned_trans⟩
    refine rel_of_mem_closure hturned (fun g hg v => ?_) hg v
    rw [Set.mem_singleton_iff.1 hg]
    simp [turned]
  · exact mem_orbit_of_mem_turned (Subgroup.subset_closure rfl)

/-- In the eight-way symmetry the orbit is the turns of the point and those of its transpose. -/
theorem mem_orbit_eightWay_iff :
    w ∈ MulAction.orbit (group eightWay) v ↔ w ∈ turned v ∨ w ∈ turned (swap v) := by
  have hturn : turn ∈ group eightWay := Subgroup.subset_closure (.inl rfl)
  have hswap : swap ∈ group eightWay := Subgroup.subset_closure (.inr rfl)
  constructor
  · rintro ⟨⟨g, hg⟩, rfl⟩
    have hequivalence : Equivalence fun v w => w ∈ turned v ∨ w ∈ turned (swap v) := by
      refine ⟨fun v => .inl (mem_turned_self v), ?_, ?_⟩
      · rintro v w (h | h)
        · exact .inl (mem_turned_symm h)
        · exact .inr (mem_turned_symm (swap_mem_turned h))
      · rintro u v w (hv | hv) (hw | hw)
        · exact .inl (mem_turned_trans hv hw)
        · exact .inr (mem_turned_trans (swap_mem_turned hv) hw)
        · exact .inr (mem_turned_trans hv hw)
        · exact .inl (mem_turned_trans (swap_mem_turned hv) hw)
    refine rel_of_mem_closure hequivalence (fun g hg v => ?_) hg v
    rcases hg with rfl | hg
    · simp [turned]
    · rw [Set.mem_singleton_iff.1 hg]
      exact .inr (mem_turned_self _)
  · rintro (h | h)
    · exact mem_orbit_of_mem_turned hturn h
    · have horbit : swap v ∈ MulAction.orbit (group eightWay) v := ⟨⟨swap, hswap⟩, rfl⟩
      rw [← MulAction.orbit_eq_iff.2 horbit]
      exact mem_orbit_of_mem_turned hturn h

end Symmetry

/-! ## The first element for each key -/

section Firsts

variable {α β : Type} [DecidableEq β] {key : α → β} {kept xs : List α}

/-- What has been kept already, and then the first element for each other key. -/
def firsts (key : α → β) (kept xs : List α) : List α :=
  xs.foldl (fun kept x => if key x ∈ kept.map key then kept else kept ++ [x]) kept

/-- An element is kept if its key is new. -/
theorem firsts_cons (x : α) : firsts key kept (x :: xs) =
    firsts key (if key x ∈ kept.map key then kept else kept ++ [x]) xs := rfl

/-- Keeping the firsts of a list may be done in parts. -/
theorem firsts_append (xs ys : List α) :
    firsts key kept (xs ++ ys) = firsts key (firsts key kept xs) ys :=
  List.foldl_append

/-- What is kept was there. -/
theorem mem_or_mem_of_mem_firsts {x : α} (h : x ∈ firsts key kept xs) : x ∈ kept ∨ x ∈ xs := by
  induction xs generalizing kept with
  | nil => exact .inl h
  | cons y xs ih =>
    rw [firsts_cons] at h
    rcases ih h with h | h
    · split at h
      · exact .inl h
      · rcases List.mem_append.1 h with h | h
        · exact .inl h
        · exact .inr (List.mem_cons.2 (.inl (List.mem_singleton.1 h)))
    · exact .inr (List.mem_cons_of_mem y h)

/-- No key is lost. -/
theorem mem_map_firsts_iff {k : β} :
    k ∈ (firsts key kept xs).map key ↔ k ∈ kept.map key ∨ k ∈ xs.map key := by
  induction xs generalizing kept with
  | nil => simp [firsts]
  | cons x xs ih =>
    rw [firsts_cons, ih, List.map_cons, List.mem_cons]
    split
    · next hseen =>
      constructor
      · rintro (h | h)
        · exact .inl h
        · exact .inr (.inr h)
      · rintro (h | rfl | h)
        · exact .inl h
        · exact .inl hseen
        · exact .inr h
    · rw [List.map_append, List.mem_append, List.map_singleton, List.mem_singleton, or_assoc]

/-- Every key is kept once. -/
theorem nodup_map_firsts (h : (kept.map key).Nodup) : ((firsts key kept xs).map key).Nodup := by
  induction xs generalizing kept with
  | nil => exact h
  | cons x xs ih =>
    rw [firsts_cons]
    apply ih
    split
    · exact h
    · next hnew =>
      rw [List.map_append, List.map_singleton]
      refine h.append (List.nodup_singleton _) ?_
      rwa [List.disjoint_singleton]

/-- Elements with keys that are there already add nothing. -/
theorem firsts_of_seen (h : ∀ x ∈ xs, key x ∈ kept.map key) : firsts key kept xs = kept := by
  induction xs with
  | nil => rfl
  | cons x xs ih =>
    obtain ⟨hx, hxs⟩ := List.forall_mem_cons.1 h
    rw [firsts_cons, if_pos hx, ih hxs]

/-- Elements with new keys only are added as they would be to an empty list. -/
theorem firsts_of_new {more : List α} (h : ∀ x ∈ xs, key x ∉ kept.map key) :
    firsts key (kept ++ more) xs = kept ++ firsts key more xs := by
  induction xs generalizing more with
  | nil => rfl
  | cons x xs ih =>
    obtain ⟨hx, hxs⟩ := List.forall_mem_cons.1 h
    have hseen : key x ∈ (kept ++ more).map key ↔ key x ∈ more.map key := by
      rw [List.map_append, List.mem_append, or_iff_right hx]
    simp only [firsts_cons, hseen]
    split
    · exact ih hxs
    · rw [List.append_assoc, ih hxs]

/-- What is kept stays in front. -/
theorem exists_firsts_eq_append (key : α → β) (kept xs : List α) :
    ∃ rest, firsts key kept xs = kept ++ rest := by
  induction xs generalizing kept with
  | nil => exact ⟨[], (List.append_nil kept).symm⟩
  | cons x xs ih =>
    rw [firsts_cons]
    split
    · exact ih kept
    · obtain ⟨rest, hrest⟩ := ih (kept ++ [x])
      exact ⟨x :: rest, by rw [hrest, List.append_assoc, List.singleton_append]⟩

end Firsts

/-! ## Completed lists -/

namespace Offset

/-- A quarter turn of a finite offset is finite. -/
theorem IsFinite.quarterTurn {o : Offset} (h : o.IsFinite) : o.quarterTurn.IsFinite :=
  ⟨Number.isFinite_iff.2 ⟨_, Number.exact_neg (Number.exact_eq_value h.col)⟩, h.row⟩

/-- The transpose of a finite offset is finite. -/
theorem IsFinite.transpose {o : Offset} (h : o.IsFinite) : o.transpose.IsFinite :=
  ⟨h.col, h.row⟩

/-- Turning an offset in doubles turns its value. -/
theorem value_quarterTurn {o : Offset} (h : o.IsFinite) :
    o.quarterTurn.value = Symmetry.turn o.value :=
  Prod.ext (Number.value_eq (Number.exact_neg (Number.exact_eq_value h.col))) rfl

/-- The four images of an offset under quarter turns, without their signs. -/
def rotations (o : Offset) : List Offset :=
  o.turns.map (·.offset)

/-- The rotations of a finite offset are finite. -/
theorem IsFinite.of_mem_rotations {o r : Offset} (h : o.IsFinite) (hr : r ∈ o.rotations) :
    r.IsFinite := by
  simp only [rotations, turns, List.map_cons, List.map_nil, List.mem_cons, List.not_mem_nil,
    or_false] at hr
  rcases hr with rfl | rfl | rfl | rfl
  · exact h
  · exact h.quarterTurn
  · exact h.quarterTurn.quarterTurn
  · exact h.quarterTurn.quarterTurn.quarterTurn

/-- The values of the rotations are the turns of the value. -/
theorem map_value_rotations {o : Offset} (h : o.IsFinite) :
    o.rotations.map value = Symmetry.turned o.value := by
  show [o.value, o.quarterTurn.value, o.quarterTurn.quarterTurn.value,
    o.quarterTurn.quarterTurn.quarterTurn.value] = _
  rw [value_quarterTurn h.quarterTurn.quarterTurn, value_quarterTurn h.quarterTurn,
    value_quarterTurn h]
  rfl

/-- A list of offsets with all of their turns, each value once. -/
def completed (offsets : List Offset) : List Offset :=
  firsts value [] (offsets.flatMap rotations)

/-- Finite images count as one if their values are equal. -/
theorem Image.sameAs_iff {i j : Image} (hi : i.offset.IsFinite) (hj : j.offset.IsFinite) :
    sameAs i j = true ↔ i.offset.value = j.offset.value := by
  have hcomponent : ∀ {x y : Float} (s t : Bool), x.isFinite = true → y.isFinite = true →
      (sameComponent x y s t = true ↔ Number.value x = Number.value y) := by
    intro x y s t hx hy
    have hnan : x ≠ Float.nan := by
      rintro rfl
      exact absurd hx (by decide +kernel)
    rw [← Number.beq_iff (Number.exact_eq_value hx) (Number.exact_eq_value hy)]
    simp [sameComponent, hnan]
  unfold sameAs
  rw [Bool.and_eq_true, hcomponent _ _ hi.row hj.row, hcomponent _ _ hi.col hj.col]
  exact Prod.mk_inj.symm

/-- Distinct images are the firsts of their values: keys distinguish what values do. -/
theorem map_offset_distinct {images : List Image} (h : ∀ i ∈ images, i.offset.IsFinite) :
    (Image.distinct images).map (·.offset) = firsts value [] (images.map (·.offset)) := by
  have hfold : ∀ kept : List Image, (∀ i ∈ kept, i.offset.IsFinite) →
      (images.foldl (fun kept i => if kept.any (Image.sameAs i) then kept else kept ++ [i])
          kept).map (·.offset) =
        firsts value (kept.map (·.offset)) (images.map (·.offset)) := by
    induction images with
    | nil => exact fun kept _ => rfl
    | cons i images ih =>
      intro kept hkept
      obtain ⟨hi, himages⟩ := List.forall_mem_cons.1 h
      -- The keys of images tell apart what the values of their offsets do.
      have hseen : kept.any (Image.sameAs i) = true ↔
          i.offset.value ∈ (kept.map (·.offset)).map value := by
        rw [List.any_eq_true, List.map_map, List.mem_map]
        refine exists_congr fun j => and_congr_right fun hj => ?_
        rw [Image.sameAs_iff hi (hkept j hj)]
        exact eq_comm
      rw [List.foldl_cons, List.map_cons, firsts_cons]
      by_cases hany : kept.any (Image.sameAs i) = true
      · rw [if_pos hany, if_pos (hseen.1 hany), ih himages kept hkept]
      · have hkept' : ∀ j ∈ kept ++ [i], j.offset.IsFinite := by
          intro j hj
          rcases List.mem_append.1 hj with hj | hj
          · exact hkept j hj
          · exact List.mem_singleton.1 hj ▸ hi
        rw [if_neg hany, if_neg (mt hseen.2 hany), ih himages _ hkept', List.map_append]
        rfl
  exact hfold [] fun i hi => absurd hi List.not_mem_nil

variable {offsets : List Offset} (h : ∀ o ∈ offsets, o.IsFinite)

/-- Finite offsets stay finite with their transposes beside them. -/
theorem finite_or_transposed (h : ∀ o ∈ offsets, o.IsFinite) :
    ∀ o ∈ offsets ++ offsets.map transpose, o.IsFinite := by
  intro o ho
  rcases List.mem_append.1 ho with ho | ho
  · exact h o ho
  · obtain ⟨p, hp, rfl⟩ := List.mem_map.1 ho
    exact (h p hp).transpose

include h

/-- Under quarter turns a list is completed by all turns of its offsets. -/
theorem symmetrize_fourWay : symmetrize offsets .fourWay = completed offsets := by
  unfold symmetrize completed
  rw [map_offset_distinct, List.map_flatMap]
  · rfl
  · intro i hi
    obtain ⟨o, ho, hi⟩ := List.mem_flatMap.1 hi
    exact (h o ho).of_mem_rotations (List.mem_map.2 ⟨i, hi, rfl⟩)

/-- With transposes a list is completed by all turns of its offsets and of their transposes. -/
theorem symmetrize_eightWay :
    symmetrize offsets .eightWay = completed (offsets ++ offsets.map transpose) := by
  have happend : symmetrize offsets .eightWay =
      symmetrize (offsets ++ offsets.map transpose) .fourWay := by
    unfold symmetrize
    rw [List.flatMap_append]
  rw [happend, symmetrize_fourWay (finite_or_transposed h)]

/-- Completing finite offsets gives finite offsets. -/
theorem finite_of_mem_completed {o : Offset} (ho : o ∈ completed offsets) : o.IsFinite := by
  obtain ⟨p, hp, ho⟩ :=
    List.mem_flatMap.1 ((mem_or_mem_of_mem_firsts ho).resolve_left List.not_mem_nil)
  exact (h p hp).of_mem_rotations ho

/-- The completed offsets have the turns of the given ones as their values. -/
theorem mem_map_value_completed {v : Rat × Rat} :
    v ∈ (completed offsets).map value ↔ ∃ o ∈ offsets, v ∈ Symmetry.turned o.value := by
  unfold completed
  rw [mem_map_firsts_iff, List.map_flatMap, List.mem_flatMap]
  constructor
  · rintro (hnil | ⟨o, ho, hv⟩)
    · exact absurd hnil List.not_mem_nil
    · exact ⟨o, ho, map_value_rotations (h o ho) ▸ hv⟩
  · rintro ⟨o, ho, hv⟩
    exact .inr ⟨o, ho, (map_value_rotations (h o ho)).symm ▸ hv⟩

omit h in
/-- No value is listed twice. -/
theorem nodup_map_value_completed (offsets : List Offset) :
    ((completed offsets).map value).Nodup :=
  nodup_map_firsts List.nodup_nil

/-- The values of a completed list stay on it when they are turned. -/
theorem mem_completed_of_turned {v w : Rat × Rat} (hv : v ∈ (completed offsets).map value)
    (hw : w ∈ Symmetry.turned v) : w ∈ (completed offsets).map value := by
  obtain ⟨o, ho, hvo⟩ := (mem_map_value_completed h).1 hv
  exact (mem_map_value_completed h).2 ⟨o, ho, Symmetry.mem_turned_trans hvo hw⟩

/-- Offsets with values that are on the completed list add nothing to it. -/
theorem completed_append_of_seen {more : List Offset} (hmore : ∀ o ∈ more, o.IsFinite)
    (hseen : ∀ o ∈ more, o.value ∈ (completed offsets).map value) :
    completed (offsets ++ more) = completed offsets := by
  unfold completed
  rw [List.flatMap_append, firsts_append]
  refine firsts_of_seen fun r hr => ?_
  obtain ⟨o, ho, hr⟩ := List.mem_flatMap.1 hr
  refine mem_completed_of_turned h (hseen o ho) ?_
  rw [← map_value_rotations (hmore o ho)]
  exact List.mem_map.2 ⟨r, hr, rfl⟩

/-- One more offset adds nothing if its value is there already, and all of its turns if not. -/
theorem completed_concat {o : Offset} (ho : o.IsFinite)
    (hnew : o.value ∉ (completed offsets).map value) :
    completed (offsets ++ [o]) = completed offsets ++ firsts value [] o.rotations := by
  have hsplit : completed (offsets ++ [o]) =
      firsts value (completed offsets ++ []) o.rotations := by
    unfold completed
    rw [List.flatMap_append, firsts_append, List.append_nil, List.flatMap_singleton]
  rw [hsplit, firsts_of_new]
  intro r hr hseen
  have hturned : r.value ∈ Symmetry.turned o.value := by
    rw [← map_value_rotations ho]
    exact List.mem_map.2 ⟨r, hr, rfl⟩
  exact hnew (mem_completed_of_turned h hseen (Symmetry.mem_turned_symm hturned))

/-- A completed list is completed to itself. -/
theorem completed_completed : completed (completed offsets) = completed offsets := by
  induction offsets using List.reverseRecOn with
  | nil => rfl
  | append_singleton offsets o ih =>
    have hoffsets : ∀ p ∈ offsets, p.IsFinite := fun p hp => h p (List.mem_append_left _ hp)
    have ho : o.IsFinite := h o (List.mem_append_right _ List.mem_cons_self)
    have hcompleted : ∀ p ∈ completed offsets, p.IsFinite :=
      fun p hp => finite_of_mem_completed hoffsets hp
    have ih := ih hoffsets
    by_cases hnew : o.value ∈ (completed offsets).map value
    · have hseen : completed (offsets ++ [o]) = completed offsets :=
        completed_append_of_seen hoffsets (fun p hp => List.mem_singleton.1 hp ▸ ho)
          fun p hp => List.mem_singleton.1 hp ▸ hnew
      rw [hseen, ih]
    · -- The offset comes first among its turns, and adds all of them again; the others then find
      -- themselves there.
      obtain ⟨rest, hrest⟩ := exists_firsts_eq_append value [o] o.rotations.tail
      have hturns : firsts value [] o.rotations = o :: rest := hrest
      have hconcat : completed (completed offsets ++ [o]) = completed (offsets ++ [o]) := by
        rw [completed_concat hcompleted ho (ih.symm ▸ hnew), ih, completed_concat hoffsets ho hnew]
      have hmore : ∀ p ∈ rest, p ∈ o.rotations := by
        intro p hp
        have hmem : p ∈ firsts value [] o.rotations := hturns ▸ List.mem_cons_of_mem o hp
        exact (mem_or_mem_of_mem_firsts hmem).resolve_left List.not_mem_nil
      have hlist : completed (offsets ++ [o]) = (completed offsets ++ [o]) ++ rest := by
        rw [completed_concat hoffsets ho hnew, hturns, List.append_assoc, List.singleton_append]
      have hagain : completed ((completed offsets ++ [o]) ++ rest) =
          completed (completed offsets ++ [o]) := by
        refine completed_append_of_seen ?_ (fun p hp => ho.of_mem_rotations (hmore p hp)) ?_
        · intro p hp
          rcases List.mem_append.1 hp with hp | hp
          · exact hcompleted p hp
          · exact List.mem_singleton.1 hp ▸ ho
        · intro p hp
          rw [hconcat, mem_map_value_completed h]
          refine ⟨o, List.mem_append_right _ List.mem_cons_self, ?_⟩
          rw [← map_value_rotations ho]
          exact List.mem_map.2 ⟨p, hmore p hp, rfl⟩
      conv_lhs => rw [hlist]
      rw [hagain, hconcat]

/-- The transposes of a list completed with transposes add nothing. -/
theorem symmetrize_eightWay_eightWay :
    symmetrize (symmetrize offsets .eightWay) .eightWay = symmetrize offsets .eightWay := by
  have hboth := finite_or_transposed h
  have hcompleted : ∀ o ∈ completed (offsets ++ offsets.map transpose), o.IsFinite :=
    fun o ho => finite_of_mem_completed hboth ho
  rw [symmetrize_eightWay h, symmetrize_eightWay hcompleted, completed_append_of_seen hcompleted,
    completed_completed hboth]
  · intro o ho
    exact finite_or_transposed hcompleted o (List.mem_append_right _ ho)
  · intro o ho
    obtain ⟨r, hr, rfl⟩ := List.mem_map.1 ho
    obtain ⟨p, hp, hturned⟩ :=
      (mem_map_value_completed hboth).1 (List.mem_map.2 ⟨r, hr, rfl⟩)
    have hswapped : r.transpose.value ∈ Symmetry.turned p.transpose.value :=
      Symmetry.swap_mem_turned hturned
    rw [completed_completed hboth, mem_map_value_completed hboth]
    rcases List.mem_append.1 hp with hp | hp
    · exact ⟨p.transpose, List.mem_append_right _ (List.mem_map.2 ⟨p, hp, rfl⟩), hswapped⟩
    · obtain ⟨q, hq, rfl⟩ := List.mem_map.1 hp
      exact ⟨q, List.mem_append_left _ hq, hswapped⟩

/-- A list completed under a symmetry has the values of the orbits of its offsets, each once, and
completing it again changes nothing. The identity leaves a list as it is. -/
theorem symmetrize_lists_orbits :
    (∀ symmetry : Symmetry, symmetry ≠ .identity →
      let images := symmetrize offsets symmetry
      (∀ o ∈ images, o.IsFinite) ∧ (images.map value).Nodup ∧
      {v | v ∈ images.map value} = ⋃ o ∈ offsets, MulAction.orbit symmetry.group o.value ∧
      symmetrize images symmetry = images) ∧
    symmetrize offsets .identity = offsets := by
  refine ⟨fun symmetry hsymmetry => ?_, rfl⟩
  cases symmetry with
  | identity => exact absurd rfl hsymmetry
  | fourWay =>
    have hcompleted : ∀ o ∈ completed offsets, o.IsFinite :=
      fun o ho => finite_of_mem_completed h ho
    dsimp only
    rw [symmetrize_fourWay h, symmetrize_fourWay hcompleted]
    refine ⟨hcompleted, nodup_map_value_completed offsets, ?_, completed_completed h⟩
    ext v
    rw [Set.mem_ofPred_eq, mem_map_value_completed h, Set.mem_iUnion₂]
    simp only [Symmetry.mem_orbit_fourWay_iff, exists_prop]
  | eightWay =>
    have hboth := finite_or_transposed h
    have hagain := symmetrize_eightWay_eightWay h
    rw [symmetrize_eightWay h] at hagain ⊢
    refine ⟨fun o ho => finite_of_mem_completed hboth ho, nodup_map_value_completed _, ?_, hagain⟩
    ext v
    rw [Set.mem_ofPred_eq, mem_map_value_completed hboth, Set.mem_iUnion₂]
    simp only [Symmetry.mem_orbit_eightWay_iff, exists_prop, List.mem_append, List.mem_map]
    constructor
    · rintro ⟨_, hmem | ⟨o, ho, rfl⟩, hv⟩
      · exact ⟨_, hmem, .inl hv⟩
      · exact ⟨o, ho, .inr hv⟩
    · rintro ⟨o, ho, hv | hv⟩
      · exact ⟨o, .inl ho, hv⟩
      · exact ⟨o.transpose, .inr ⟨o, ho, rfl⟩, hv⟩

omit h in
/-- Two offsets of one orbit, with zeros of both signs, and one of another. -/
theorem symmetrize_lists_orbits_example :
    let offsets : List Offset := [⟨1, -0⟩, ⟨0, -1⟩, ⟨0.5, 2⟩]
    (∀ o ∈ offsets, o.IsFinite) ∧
      {v | v ∈ (symmetrize offsets .eightWay).map value} =
        ⋃ o ∈ offsets, MulAction.orbit (Symmetry.group .eightWay) o.value ∧
      symmetrize (symmetrize offsets .eightWay) .eightWay = symmetrize offsets .eightWay := by
  have hfinite : ∀ o ∈ ([⟨1, -0⟩, ⟨0, -1⟩, ⟨0.5, 2⟩] : List Offset), o.IsFinite := by
    simp only [List.mem_cons, List.not_mem_nil, or_false]
    rintro o (rfl | rfl | rfl) <;> exact ⟨by decide +kernel, by decide +kernel⟩
  obtain ⟨-, -, horbits, hagain⟩ := (symmetrize_lists_orbits hfinite).1 .eightWay (by decide)
  exact ⟨hfinite, horbits, hagain⟩

end Offset

end Reticle
