import Reticle.Plane.Cell

/-!
# Finite sets of cells

A set of cells is kept as the list of its members in reading order. Two sets are equal when they
have the same members.
-/

namespace Reticle

/-- A finite set of cells, listed in reading order. -/
structure CellSet where
  cells : List Cell
  ascending : cells.Pairwise (· < ·)
deriving DecidableEq

namespace CellSet

instance : Membership Cell CellSet :=
  ⟨fun s c => c ∈ s.cells⟩

/-- A cell is a member when the ascending list holds it. -/
theorem mem_def {s : CellSet} {c : Cell} : c ∈ s ↔ c ∈ s.cells :=
  Iff.rfl

/-- The set without members. -/
def empty : CellSet :=
  ⟨[], .nil⟩

/-- Whether a cell is a member. -/
def contains (s : CellSet) (c : Cell) : Bool :=
  s.cells.contains c

/-- The test that is run decides membership. -/
theorem contains_iff {s : CellSet} {c : Cell} : s.contains c = true ↔ c ∈ s := by
  simp [contains, mem_def]

/-- The number of members. -/
def size (s : CellSet) : Nat :=
  s.cells.length

/-! ## Adding a member -/

/-- A cell put in its place in an ascending list; a cell that is there already is not repeated. -/
def place (c : Cell) : List Cell → List Cell
  | [] => [c]
  | d :: rest => if c < d then c :: d :: rest else if c = d then d :: rest else d :: place c rest

/-- Placing a cell adds it and loses none of the others. -/
theorem mem_place {c e : Cell} {cells : List Cell} : e ∈ place c cells ↔ e = c ∨ e ∈ cells := by
  induction cells with
  | nil => simp [place]
  | cons d rest ih =>
    simp only [place]
    split
    · simp
    · split
      · next h => simp [h]
      · simp only [List.mem_cons, ih]
        exact or_left_comm

/-- Placing keeps the list strictly ascending, so no cell is ever held twice. -/
theorem ascending_place {c : Cell} {cells : List Cell} (h : cells.Pairwise (· < ·)) :
    (place c cells).Pairwise (· < ·) := by
  induction cells with
  | nil => simp [place]
  | cons d rest ih =>
    obtain ⟨hd, hrest⟩ := List.pairwise_cons.1 h
    simp only [place]
    split
    · next hcd =>
      refine List.pairwise_cons.2 ⟨fun e he => ?_, h⟩
      rcases List.mem_cons.1 he with rfl | he
      · exact hcd
      · exact Cell.lt_trans hcd (hd e he)
    · split
      · exact h
      · next hcd hne =>
        refine List.pairwise_cons.2 ⟨fun e he => ?_, ih hrest⟩
        rcases mem_place.1 he with rfl | he
        · rcases Cell.lt_trichotomy d e with h | h | h
          · exact h
          · exact absurd h.symm hne
          · exact absurd h hcd
        · exact hd e he

/-- A set with one more member. -/
def insert (s : CellSet) (c : Cell) : CellSet :=
  ⟨place c s.cells, ascending_place s.ascending⟩

/-- A set with a cell added holds that cell and what it held before. -/
theorem mem_insert {s : CellSet} {c e : Cell} : e ∈ s.insert c ↔ e = c ∨ e ∈ s :=
  mem_place

/-! ## Removing a member -/

/-- A set with one member less. -/
def erase (s : CellSet) (c : Cell) : CellSet :=
  ⟨s.cells.filter (· != c), s.ascending.sublist List.filter_sublist⟩

/-- A set with a cell taken out holds every other cell that it held before. -/
theorem mem_erase {s : CellSet} {c e : Cell} : e ∈ s.erase c ↔ e ∈ s ∧ e ≠ c := by
  simp [erase, mem_def]

/-! ## Equality -/

/-- Strictly ascending lists of the same cells are equal: a set has one list only. -/
theorem eq_of_ascending {xs ys : List Cell} (hx : xs.Pairwise (· < ·)) (hy : ys.Pairwise (· < ·))
    (h : ∀ c, c ∈ xs ↔ c ∈ ys) : xs = ys := by
  induction xs generalizing ys with
  | nil =>
    cases ys with
    | nil => rfl
    | cons y ys => exact absurd ((h y).2 List.mem_cons_self) List.not_mem_nil
  | cons x xs ih =>
    cases ys with
    | nil => exact absurd ((h x).1 List.mem_cons_self) List.not_mem_nil
    | cons y ys =>
      obtain ⟨hxs, hxtail⟩ := List.pairwise_cons.1 hx
      obtain ⟨hys, hytail⟩ := List.pairwise_cons.1 hy
      have hxy : x = y := by
        rcases List.mem_cons.1 ((h x).1 List.mem_cons_self) with he | hmem
        · exact he
        · rcases List.mem_cons.1 ((h y).2 List.mem_cons_self) with he | hmem'
          · exact he.symm
          · exact absurd (Cell.lt_trans (hys x hmem) (hxs y hmem')) (Cell.lt_irrefl y)
      subst hxy
      refine congrArg _ (ih hxtail hytail fun c => ?_)
      have hc := h c
      simp only [List.mem_cons] at hc
      constructor
      · intro hm
        rcases hc.1 (.inr hm) with rfl | hm'
        · exact absurd (hxs c hm) (Cell.lt_irrefl c)
        · exact hm'
      · intro hm
        rcases hc.2 (.inr hm) with rfl | hm'
        · exact absurd (hys c hm) (Cell.lt_irrefl c)
        · exact hm'

/-- Sets with the same members are equal. -/
theorem ext {s t : CellSet} (h : ∀ c, c ∈ s ↔ c ∈ t) : s = t := by
  obtain ⟨xs, hx⟩ := s
  obtain ⟨ys, hy⟩ := t
  have := eq_of_ascending hx hy h
  subst this
  rfl

end CellSet

end Reticle
