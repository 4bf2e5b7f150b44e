import Mathlib.Data.List.Nodup
import Reticle.Area.Shape

/-!
# The cells of areas

Each pattern is clipped to the grid and lists no cell twice, in its own way: a band is a selection
of the cells of the grid, the walks throw away what lies off the grid and what they met before, and
a crossing line without a direction is the anchor alone. So the cells of every shape around a cell
of the grid are a list of cells of the grid without repetition, and sparing the actor's cell keeps
it so (`Area.lists_cells`).
-/

namespace Reticle

/-- Erasing repetitions leaves none. -/
theorem nodup_eraseDups {α : Type} [BEq α] [LawfulBEq α] (xs : List α) : xs.eraseDups.Nodup := by
  cases xs with
  | nil => simp
  | cons x xs =>
    rw [List.eraseDups_cons, List.nodup_cons]
    exact ⟨by simp, nodup_eraseDups _⟩
termination_by xs.length
decreasing_by exact Nat.lt_succ_of_le (List.length_filter_le _ _)

/-- A list without repetitions is left as it is. -/
theorem eraseDups_of_nodup {α : Type} [BEq α] [LawfulBEq α] {xs : List α} (h : xs.Nodup) :
    xs.eraseDups = xs := by
  induction xs with
  | nil => simp
  | cons x xs ih =>
    obtain ⟨hx, hxs⟩ := List.nodup_cons.1 h
    have hkept : xs.filter (fun y => !y == x) = xs := by
      rw [List.filter_eq_self]
      rintro y hy
      rw [Bool.not_eq_true', beq_eq_false_iff_ne]
      rintro rfl
      exact hx hy
    rw [List.eraseDups_cons, hkept, ih hxs]

namespace Grid

/-- The list has cells of the grid only, each once, and not the actor's if that is spared. -/
structure Lists (g : Grid) (sparesActor : Bool) (cells : List Cell) : Prop where
  inside : ∀ c ∈ cells, g.contains c = true
  nodup : cells.Nodup
  spared : sparesActor = true → g.center ∉ cells

variable {g : Grid} {cells : List Cell}

/-- Without a cell to spare there is nothing to show about it. -/
theorem Lists.of_nodup (hinside : ∀ c ∈ cells, g.contains c = true) (hnodup : cells.Nodup) :
    g.Lists false cells :=
  ⟨hinside, hnodup, fun h => Bool.noConfusion h⟩

/-- A proper listing holds no cell off the grid. -/
theorem Lists.not_mem {sparesActor : Bool} (h : g.Lists sparesActor cells) {c : Cell}
    (hout : g.contains c = false) : c ∉ cells := by
  intro hmem
  rw [h.inside c hmem] at hout
  exact Bool.noConfusion hout

/-- No cells at all are a proper listing. -/
theorem lists_nil (g : Grid) (sparesActor : Bool) : g.Lists sparesActor [] :=
  ⟨fun _ hc => absurd hc List.not_mem_nil, List.nodup_nil, fun _ => List.not_mem_nil⟩

/-- The listing of a grid repeats no cell. -/
theorem nodup_cells (g : Grid) : g.cells.Nodup := by
  unfold cells
  rw [List.nodup_flatMap]
  constructor
  · intro row _
    refine List.nodup_range.map ?_
    intro col col' h
    exact Int.ofNat.inj (Cell.mk.inj h).2
  · refine List.nodup_range.imp ?_
    intro row row' hne c hc hc'
    obtain ⟨col, -, rfl⟩ := List.mem_map.1 hc
    obtain ⟨col', -, h⟩ := List.mem_map.1 hc'
    exact hne (Int.ofNat.inj (Cell.mk.inj h).1).symm

/-- Cells picked from those of the grid are a proper listing. -/
theorem lists_filter (g : Grid) (keep : Cell → Bool) : g.Lists false (g.cells.filter keep) :=
  .of_nodup (fun _ hc => mem_cells.1 (List.mem_of_mem_filter hc)) (g.nodup_cells.filter keep)

/-- Whatever cells are clipped, the outcome is a proper listing. -/
theorem lists_clip (g : Grid) (cells : List Cell) : g.Lists false (g.clip cells) := by
  refine .of_nodup ?_ (nodup_eraseDups _)
  intro c hc
  exact (List.mem_filter.1 (List.mem_eraseDups.1 hc)).2

/-- Lines cast from an origin and cut to the grid are a proper listing. -/
theorem lists_lines (g : Grid) (origin : Cell) (directions : List Direction) (b : Bounds) :
    g.Lists false (g.lines origin directions b) := by
  refine .of_nodup ?_ (nodup_eraseDups _)
  intro c hc
  obtain ⟨d, -, hd⟩ := List.mem_flatMap.1 (List.mem_eraseDups.1 hc)
  exact (g.lists_clip _).inside c hd

/-- The line across a facing is a proper listing. -/
theorem lists_crossLine {through : Cell} (h : g.contains through = true)
    (facing : Option Direction) (b : Bounds) : g.Lists false (g.crossLine through facing b) := by
  cases facing with
  | some d => exact g.lists_clip _
  | none =>
    refine .of_nodup ?_ (List.nodup_singleton through)
    intro c hc
    rw [List.mem_singleton.1 hc]
    exact h

end Grid

/-- Offsets placed on a grid are a proper listing. -/
theorem Offset.lists_place (grid : Grid) (anchor : Cell) (offsets : List Offset) :
    grid.Lists false (place grid anchor offsets) := by
  refine .of_nodup ?_ (nodup_eraseDups _)
  intro c hc
  exact (List.mem_filter.1 (List.mem_eraseDups.1 hc)).2

section Anchored

variable {grid : Grid} {anchor : Cell} (h : grid.contains anchor = true)
  (facing : Option Direction)
include h

/-- Every shape, in every facing, gives a proper listing. -/
theorem Shape.lists_cells (shape : Shape) :
    grid.Lists false (shape.cells grid anchor facing) := by
  cases shape with
  | empty => exact grid.lists_nil false
  | everywhere => exact .of_nodup (fun c hc => Grid.mem_cells.1 hc) grid.nodup_cells
  | custom offsets turning => exact Offset.lists_place grid anchor _
  | band bounds => exact grid.lists_filter _
  | lines directions bounds => exact grid.lists_lines anchor directions bounds
  | crossLine bounds => exact Grid.lists_crossLine h facing bounds
  | line bounds =>
    cases facing with
    | some d => exact grid.lists_clip _
    | none => exact grid.lists_nil false
  | cone bounds =>
    cases facing with
    | some d => exact grid.lists_clip _
    | none => exact grid.lists_nil false

/-- An area gives a proper listing, without the actor where it spares the actor. -/
theorem Area.lists_cells (a : Area) : grid.Lists a.sparesActor (a.cells grid anchor facing) := by
  obtain ⟨hinside, hnodup, -⟩ := a.shape.lists_cells h facing
  unfold Area.cells
  cases hspares : a.sparesActor with
  | false => exact .of_nodup hinside hnodup
  | true =>
    rw [if_pos rfl]
    refine ⟨fun c hc => hinside c (List.mem_of_mem_filter hc), hnodup.filter _, fun _ hc => ?_⟩
    simpa using (List.mem_filter.1 hc).2

end Anchored

end Reticle
