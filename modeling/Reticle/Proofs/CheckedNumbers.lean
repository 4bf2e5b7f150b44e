import Reticle.Plane.Checked

/-!
# Checked computations

What is known of a checked computation is said in one of two ways. It comes to a result exactly
under a condition, and to an overflow otherwise (`Checked.Exactly`). Or it comes to the result of
the plain computation if it comes to any, and certainly does under a condition that is enough
(`Checked.Refines`), which also fits computations that end early. Both are carried along a program:
there is one lemma for each way to put programs together.
-/

namespace Reticle

namespace Checked

section

variable {α β : Type}

/-- Going on with a result. -/
@[simp] theorem ok_bind (a : α) (f : α → Checked β) : (Except.ok a >>= f) = f a := rfl

/-- Nothing goes on after a fault. -/
@[simp] theorem error_bind (e : Fault) (f : α → Checked β) :
    ((Except.error e : Checked α) >>= f) = .error e := rfl

@[simp] theorem pure_eq_ok (a : α) : (pure a : Checked α) = .ok a := rfl

/-- What the first computation comes to is what the second goes on with. -/
theorem of_bind_eq_ok {x : Checked α} {f : α → Checked β} {b : β} (h : (x >>= f) = .ok b) :
    ∃ a, x = .ok a ∧ f a = .ok b := by
  cases x with
  | error e => cases h
  | ok a => exact ⟨a, rfl, h⟩

end

/-! ## Results under an exact condition -/

/-- The computation comes to the result exactly under the condition, and overflows otherwise. -/
structure Exactly {α : Type} (x : Checked α) (a : α) (fits : Prop) : Prop where
  ok : fits → x = .ok a
  overflow : ¬ fits → x = .error .overflow

/-- A number is checked against the range. -/
theorem fit_exactly (n : Int) : (fit n).Exactly n (Number.Fits n) :=
  ⟨fun h => if_pos h, fun h => if_neg h⟩

namespace Exactly

variable {α β : Type} {x : Checked α} {a : α} {b : β} {P Q : Prop}

/-- The condition may be replaced by an equivalent one. -/
theorem congr (h : x.Exactly a P) (hPQ : P ↔ Q) : x.Exactly a Q :=
  ⟨fun hQ => h.ok (hPQ.2 hQ), fun hQ => h.overflow fun hP => hQ (hPQ.1 hP)⟩

/-- A result that is simply returned needs nothing. -/
theorem of_ok (a : α) : Exactly (.ok a) a True :=
  ⟨fun _ => rfl, fun h => absurd trivial h⟩

/-- Two computations one after the other need what both of them need. -/
theorem bind {f : α → Checked β} (hx : x.Exactly a P) (hf : P → (f a).Exactly b Q) :
    (x >>= f).Exactly b (P ∧ Q) := by
  constructor
  · rintro ⟨hP, hQ⟩
    rw [hx.ok hP]
    exact (hf hP).ok hQ
  · intro hn
    by_cases hP : P
    · rw [hx.ok hP]
      exact (hf hP).overflow fun hQ => hn ⟨hP, hQ⟩
    · rw [hx.overflow hP]
      rfl

/-- A function without faults keeps the condition. -/
theorem map (f : α → β) (hx : x.Exactly a P) :
    (do let a ← x; return f a : Checked β).Exactly (f a) P :=
  (hx.bind fun _ => of_ok (f a)).congr (and_iff_left trivial)

/-- A computation for each element of a list. -/
theorem mapM {f : α → Checked β} {g : α → β} {R : α → Prop} {xs : List α}
    (h : ∀ x ∈ xs, (f x).Exactly (g x) (R x)) :
    (xs.mapM f).Exactly (xs.map g) (∀ x ∈ xs, R x) := by
  induction xs with
  | nil => exact (of_ok []).congr (by simp)
  | cons x xs ih =>
    obtain ⟨hx, hxs⟩ := List.forall_mem_cons.1 h
    rw [List.mapM_cons]
    refine (hx.bind fun _ => (ih hxs).map (g x :: ·)).congr ?_
    exact List.forall_mem_cons.symm

/-- A test of each element of a list. -/
theorem filterM {f : α → Checked Bool} {p : α → Bool} {R : α → Prop} {xs : List α}
    (h : ∀ x ∈ xs, (f x).Exactly (p x) (R x)) :
    (xs.filterM f).Exactly (xs.filter p) (∀ x ∈ xs, R x) := by
  have haux : ∀ kept, (xs.filterAuxM f kept).Exactly ((xs.filter p).reverse ++ kept)
      (∀ x ∈ xs, R x) := by
    induction xs with
    | nil => exact fun kept => (of_ok kept).congr (by simp)
    | cons x xs ih =>
      intro kept
      obtain ⟨hx, hxs⟩ := List.forall_mem_cons.1 h
      rw [List.filterAuxM]
      refine (hx.bind fun _ => ?_).congr List.forall_mem_cons.symm
      have hrest := ih hxs (cond (p x) (x :: kept) kept)
      rw [List.filter_cons]
      cases hp : p x <;> simpa [hp] using hrest
  have hkept := (haux []).map List.reverse
  rw [List.append_nil, List.reverse_reverse] at hkept
  exact hkept

end Exactly

/-! ## Results under a sufficient condition -/

/-- The computation comes to the result if it comes to any, and it does come to it if it is
safe. -/
structure Refines {α : Type} (x : Checked α) (a : α) (safe : Prop) : Prop where
  agrees : ∀ result, x = .ok result → result = a
  answers : safe → x = .ok a

namespace Exactly

variable {α : Type} {x : Checked α} {a : α} {P S : Prop}

/-- What answers exactly under a condition refines its value wherever that condition holds. -/
theorem refines (h : x.Exactly a P) (hS : S → P) : x.Refines a S := by
  refine ⟨fun result hresult => ?_, fun hs => h.ok (hS hs)⟩
  by_cases hP : P
  · exact Except.ok.inj (hresult.symm.trans (h.ok hP))
  · rw [h.overflow hP] at hresult
    cases hresult

end Exactly

/-- A number that is checked is kept. -/
theorem fit_refines {n : Int} {S : Prop} (h : S → Number.Fits n) : (fit n).Refines n S :=
  (fit_exactly n).refines h

namespace Refines

variable {α β γ : Type} {x : Checked α} {a : α} {b : β} {S T : Prop}

/-- An answer that was given is right under any condition. -/
theorem of_ok (a : α) (S : Prop) : Refines (.ok a) a S :=
  ⟨fun _ h => (Except.ok.inj h).symm, fun _ => rfl⟩

/-- Going on with a result; what is known of it may be used. -/
theorem bind {f : α → Checked β} (hx : x.Refines a S) (hf : (f a).Refines b S) :
    (x >>= f).Refines b S := by
  constructor
  · intro result hresult
    obtain ⟨a', ha', hrest⟩ := of_bind_eq_ok hresult
    obtain rfl := hx.agrees a' ha'
    exact hf.agrees result hrest
  · intro hS
    rw [hx.answers hS]
    exact hf.answers hS

/-- A function without faults keeps a refinement. -/
theorem map (f : α → β) (hx : x.Refines a S) :
    (do let a ← x; return f a : Checked β).Refines (f a) S :=
  hx.bind (of_ok (f a) S)

/-- A choice refines a choice when each branch does under its own test. -/
theorem ite {P : Prop} [Decidable P] {y : Checked α} {a' : α} (hx : P → x.Refines a S)
    (hy : ¬ P → y.Refines a' S) : (if P then x else y).Refines (if P then a else a') S := by
  split
  · next hP => exact hx hP
  · next hP => exact hy hP

/-- The second question is asked if the answer to the first is yes. -/
theorem and {x y : Checked Bool} {p q : Bool} (hx : x.Refines p S)
    (hy : p = true → y.Refines q S) : (x <&&> y).Refines (p && q) S := by
  refine hx.bind ?_
  cases p with
  | false => exact of_ok false S
  | true => exact hy rfl

/-- A list of computations refines the list of their values when each of them does. -/
theorem mapM {f : α → Checked β} {g : α → β} {xs : List α}
    (h : ∀ x ∈ xs, (f x).Refines (g x) S) : (xs.mapM f).Refines (xs.map g) S := by
  induction xs with
  | nil => exact of_ok [] S
  | cons x xs ih =>
    obtain ⟨hx, hxs⟩ := List.forall_mem_cons.1 h
    rw [List.mapM_cons]
    exact hx.bind ((ih hxs).map (g x :: ·))

/-- Cells are picked alike when the tests come out alike. -/
theorem filterM {f : α → Checked Bool} {p : α → Bool} {xs : List α}
    (h : ∀ x ∈ xs, (f x).Refines (p x) S) : (xs.filterM f).Refines (xs.filter p) S := by
  have haux : ∀ kept, (xs.filterAuxM f kept).Refines ((xs.filter p).reverse ++ kept) S := by
    induction xs with
    | nil => exact fun kept => of_ok kept S
    | cons x xs ih =>
      intro kept
      obtain ⟨hx, hxs⟩ := List.forall_mem_cons.1 h
      rw [List.filterAuxM]
      refine hx.bind ?_
      have hrest := ih hxs (cond (p x) (x :: kept) kept)
      rw [List.filter_cons]
      cases hp : p x <;> simpa [hp] using hrest
  have hkept := (haux []).map List.reverse
  rw [List.append_nil, List.reverse_reverse] at hkept
  exact hkept

/-- The elements up to the first that fails a test. -/
theorem allM {f : α → Checked Bool} {p : α → Bool} {xs : List α}
    (h : ∀ x ∈ xs, (f x).Refines (p x) S) : (xs.allM f).Refines (xs.all p) S := by
  induction xs with
  | nil => exact of_ok true S
  | cons x xs ih =>
    obtain ⟨hx, hxs⟩ := List.forall_mem_cons.1 h
    rw [List.allM_cons, List.all_cons]
    refine hx.bind ?_
    cases p x with
    | false => exact of_ok false S
    | true => exact ih hxs

/-- The elements up to the first that passes a test. -/
theorem anyM {f : α → Checked Bool} {p : α → Bool} {xs : List α}
    (h : ∀ x ∈ xs, (f x).Refines (p x) S) : (xs.anyM f).Refines (xs.any p) S := by
  induction xs with
  | nil => exact of_ok false S
  | cons x xs ih =>
    obtain ⟨hx, hxs⟩ := List.forall_mem_cons.1 h
    rw [List.anyM_cons, List.any_cons]
    refine hx.bind ?_
    cases p x with
    | false => exact ih hxs
    | true => exact of_ok true S

/-- The first element that passes a test. -/
theorem findM? {f : α → Checked Bool} {p : α → Bool} {xs : List α}
    (h : ∀ x ∈ xs, (f x).Refines (p x) S) : (xs.findM? f).Refines (xs.find? p) S := by
  induction xs with
  | nil => exact of_ok none S
  | cons x xs ih =>
    obtain ⟨hx, hxs⟩ := List.forall_mem_cons.1 h
    rw [List.findM?, List.find?_cons]
    refine hx.bind ?_
    cases p x with
    | false => exact ih hxs
    | true => exact of_ok (some x) S

/-- A loop over a list; what it keeps of what it has so far may be used in every step. -/
theorem foldlM {f : β → α → Checked β} {g : β → α → β} (I : β → Prop) {xs : List α}
    (h : ∀ b, I b → ∀ x ∈ xs, (f b x).Refines (g b x) S ∧ I (g b x)) {b : β} (hb : I b) :
    (xs.foldlM f b).Refines (xs.foldl g b) S ∧ I (xs.foldl g b) := by
  induction xs generalizing b with
  | nil => exact ⟨of_ok b S, hb⟩
  | cons x xs ih =>
    obtain ⟨hx, hkept⟩ := h b hb x List.mem_cons_self
    have hrest := ih (fun b hb y hy => h b hb y (List.mem_cons_of_mem x hy)) hkept
    rw [List.foldlM_cons, List.foldl_cons]
    exact ⟨hx.bind hrest.1, hrest.2⟩

end Refines

end Checked

/-! ## Cells -/

open Checked

/-- What it takes to be a 32-bit number, for arithmetic on bounds. -/
theorem Number.fits_iff {n : Int} : Fits n ↔ -0x80000000 ≤ n ∧ n ≤ 0x7FFFFFFF :=
  Iff.rfl

namespace Cell

/-- Both coordinates are 32-bit numbers. -/
def IsAddress (c : Cell) : Prop :=
  (-0x80000000 ≤ c.row ∧ c.row ≤ 0x7FFFFFFF) ∧ -0x80000000 ≤ c.col ∧ c.col ≤ 0x7FFFFFFF

instance (c : Cell) : Decidable c.IsAddress :=
  inferInstanceAs (Decidable ((_ ∧ _) ∧ _ ∧ _))

/-- Neither coordinate is farther from zero than `2 ^ 28`. -/
def Moderate (c : Cell) : Prop :=
  c.row.natAbs ≤ 0x10000000 ∧ c.col.natAbs ≤ 0x10000000

instance (c : Cell) : Decidable c.Moderate :=
  inferInstanceAs (Decidable (_ ∧ _))

variable {a b c : Cell}

/-- A cell is shifted unless it leaves the range. -/
theorem checkedShift_exactly (c : Cell) (dRow dCol : Int) :
    (c.checkedShift dRow dCol).Exactly (c.shift dRow dCol) (c.shift dRow dCol).IsAddress :=
  (fit_exactly _).bind fun _ => (fit_exactly _).map _

/-- Steps whose number is not the least one lead to every cell that is in the range. -/
theorem checkedStep_exactly (c : Cell) (d : Direction) {steps : Int}
    (hsteps : steps.natAbs ≤ 0x7FFFFFFF) :
    (c.checkedStep d steps).Exactly (c.step d steps) (c.step d steps).IsAddress := by
  have hrow : Number.Fits (d.row * steps) := by
    rw [Number.fits_iff]
    cases d <;> simp only [Direction.row] <;> omega
  have hcol : Number.Fits (d.col * steps) := by
    rw [Number.fits_iff]
    cases d <;> simp only [Direction.col] <;> omega
  have hshift := c.checkedShift_exactly (d.row * steps) (d.col * steps)
  refine ((fit_exactly _).bind fun _ => (fit_exactly _).bind fun _ => hshift).congr ?_
  exact ⟨fun h => h.2.2, fun h => ⟨hrow, hcol, h⟩⟩

/-- A displacement is computed exactly when both differences fit. -/
theorem checkedDisplacement_exactly (c origin : Cell) :
    (c.checkedDisplacement origin).Exactly (c.row - origin.row, c.col - origin.col)
      (Number.Fits (c.row - origin.row) ∧ Number.Fits (c.col - origin.col)) :=
  (fit_exactly _).bind fun _ => (fit_exactly _).map _

/-- Two cells are compared unless their rows or columns are too far apart. -/
theorem checkedApart_exactly (a b : Cell) :
    (a.checkedApart b).Exactly ((a.row - b.row).natAbs, (a.col - b.col).natAbs)
      ((a.row - b.row).natAbs ≤ 0x7FFFFFFF ∧ (a.col - b.col).natAbs ≤ 0x7FFFFFFF) := by
  refine ((fit_exactly _).bind fun _ => (fit_exactly _).bind fun _ => (fit_exactly _).bind fun _ =>
    (fit_exactly _).map _).congr ?_
  simp only [Number.fits_iff]
  omega

/-- The distance along rows and columns is computed exactly when it fits. -/
theorem checkedManhattan_exactly (a b : Cell) :
    (a.checkedManhattan b).Exactly (a.manhattan b) (a.manhattan b ≤ 0x7FFFFFFF) := by
  refine ((a.checkedApart_exactly b).bind fun _ => fit_exactly (a.manhattan b)).congr ?_
  unfold manhattan
  rw [Number.fits_iff]
  omega

/-- The distance in king moves is computed exactly when it fits. -/
theorem checkedChebyshev_exactly (a b : Cell) :
    (a.checkedChebyshev b).Exactly (a.chebyshev b) (a.chebyshev b ≤ 0x7FFFFFFF) := by
  refine ((a.checkedApart_exactly b).map fun apart => max apart.1 apart.2).congr ?_
  unfold chebyshev
  omega

/-- Cells of moderate size are not too far apart. -/
theorem Moderate.manhattan_le (ha : a.Moderate) (hb : b.Moderate) :
    a.manhattan b ≤ 0x7FFFFFFF := by
  obtain ⟨har, hac⟩ := ha
  obtain ⟨hbr, hbc⟩ := hb
  unfold manhattan
  omega

/-- Rows and columns are no farther apart than the cells. -/
theorem displacement_fits (h : a.manhattan b ≤ 0x7FFFFFFF) :
    Number.Fits (a.row - b.row) ∧ Number.Fits (a.col - b.col) := by
  unfold manhattan at h
  rw [Number.fits_iff, Number.fits_iff]
  omega

end Cell

/-! ## Directions -/

namespace Direction

/-- A quarter turn negates coordinates of a single step only. -/
theorem checkedQuarterTurn_eq (d : Direction) : d.checkedQuarterTurn = .ok d.quarterTurn := by
  cases d <;> rfl

/-- All numbers that a product with a direction is computed from are 32-bit numbers. -/
def DotFits (d : Direction) (dRow dCol : Int) : Prop :=
  Number.Fits (d.row * dRow) ∧ Number.Fits (d.col * dCol) ∧ Number.Fits (d.dot dRow dCol)

/-- The product with a direction is computed exactly when its summands and their sum fit. -/
theorem checkedDot_exactly (d : Direction) (dRow dCol : Int) :
    (d.checkedDot dRow dCol).Exactly (d.dot dRow dCol) (d.DotFits dRow dCol) :=
  (fit_exactly _).bind fun _ => (fit_exactly _).bind fun _ => fit_exactly _

/-- The rank of a direction is computed from a product that has to fit, and from the length of the
direction, which does. -/
theorem checkedRank_exactly (d : Direction) (dRow dCol : Int) :
    (d.checkedRank dRow dCol).Exactly (d.alignmentRank dRow dCol) (d.DotFits dRow dCol) := by
  have hunit : d.DotFits d.row d.col := by
    unfold DotFits
    cases d <;> decide
  have hrank : (d.checkedRank dRow dCol).Exactly (d.alignmentRank dRow dCol)
      (d.DotFits dRow dCol ∧ d.DotFits d.row d.col) :=
    (d.checkedDot_exactly dRow dCol).bind fun _ => (d.checkedDot_exactly d.row d.col).map _
  exact hrank.congr (and_iff_left hunit)

/-- Small displacements have small products. -/
theorem dotFits_of_natAbs_le (d : Direction) {dRow dCol : Int} (hrow : dRow.natAbs ≤ 0x20000000)
    (hcol : dCol.natAbs ≤ 0x20000000) : d.DotFits dRow dCol := by
  unfold DotFits dot
  rw [Number.fits_iff, Number.fits_iff, Number.fits_iff]
  cases d <;> simp only [row, col] <;> omega

/-- Along a row or a column one of the two parts of a product is zero. -/
theorem dotFits_of_mem_cardinals {d : Direction} (hd : d ∈ cardinals) {dRow dCol : Int}
    (hrow : dRow.natAbs ≤ 0x7FFFFFFF) (hcol : dCol.natAbs ≤ 0x7FFFFFFF) : d.DotFits dRow dCol := by
  unfold DotFits dot
  rw [Number.fits_iff, Number.fits_iff, Number.fits_iff]
  have hcases : d = north ∨ d = south ∨ d = west ∨ d = east := by
    simpa [cardinals] using hd
  rcases hcases with rfl | rfl | rfl | rfl <;> simp only [row, col] <;> omega

end Direction

end Reticle
