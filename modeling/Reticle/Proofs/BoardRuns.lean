import Reticle.Board.Basic

/-!
# Runs of board changes

A board is reached from the empty one by changes. Every change says which cells it affects and how,
and none of them puts an obstacle off the grid or on the actor's cell, so no board that is reached
has one there (`legal_run`).
-/

namespace Reticle.Board

/-- A change of the obstacles. -/
inductive Change
  | block (c : Cell)
  | unblock (c : Cell)
  | toggle (c : Cell)
  | clear
  | addSample
deriving DecidableEq, Repr

/-- The board after a change. -/
def apply (b : Board) : Change → Board
  | .block c => b.block c
  | .unblock c => b.unblock c
  | .toggle c => b.toggle c
  | .clear => b.clear
  | .addSample => b.addSample

/-- The board after changes, the first of them first. -/
def run (b : Board) (changes : List Change) : Board :=
  changes.foldl apply b

/-! ## What a change does to a cell -/

/-- The blocked cells are the obstacles. -/
theorem isBlocked_iff {b : Board} {c : Cell} : b.isBlocked c = true ↔ c ∈ b.obstacles :=
  CellSet.contains_iff

/-- A cell can be blocked when it lies on the grid and is not the centre. -/
theorem accepts_iff {b : Board} {c : Cell} :
    b.accepts c = true ↔ b.grid.contains c = true ∧ c ≠ b.grid.center := by
  simp [accepts]

/-- Blocking a cell leaves the grid alone. -/
@[simp] theorem grid_block (b : Board) (c : Cell) : (b.block c).grid = b.grid := by
  unfold block block?
  split <;> rfl

/-- Unblocking a cell leaves the grid alone. -/
@[simp] theorem grid_unblock (b : Board) (c : Cell) : (b.unblock c).grid = b.grid := by
  unfold unblock unblock?
  split <;> rfl

/-- Toggling an obstacle removes it. -/
theorem toggle_of_mem {b : Board} {c : Cell} (h : c ∈ b.obstacles) : b.toggle c = b.unblock c := by
  unfold toggle unblock unblock?
  rw [if_pos (isBlocked_iff.mpr h)]
  rfl

/-- Toggling a free cell blocks it, where that is allowed. -/
theorem toggle_of_not_mem {b : Board} {c : Cell} (h : c ∉ b.obstacles) :
    b.toggle c = b.block c := by
  unfold toggle unblock?
  rw [if_neg (fun hb => h (isBlocked_iff.mp hb))]

/-- Blocking adds the cell when it is accepted, and keeps every obstacle. -/
theorem mem_block {b : Board} {c e : Cell} :
    e ∈ (b.block c).obstacles ↔ e ∈ b.obstacles ∨ (e = c ∧ b.accepts c = true) := by
  unfold block block?
  by_cases hacc : b.accepts c = true
  · by_cases hmem : c ∈ b.obstacles
    · have hb : b.isBlocked c = true := isBlocked_iff.mpr hmem
      simp only [hacc, hb, Bool.not_true, Bool.and_false, Bool.false_eq_true, if_false,
        Option.getD_none, and_true]
      exact ⟨Or.inl, fun h => h.elim id fun he => he ▸ hmem⟩
    · have hb : b.isBlocked c = false := by
        rw [← Bool.not_eq_true]
        exact fun h => hmem (isBlocked_iff.mp h)
      simp only [hacc, hb, Bool.not_false, Bool.and_self, if_true, Option.getD_some, and_true]
      rw [CellSet.mem_insert]
      exact or_comm
  · simp [hacc]

/-- Unblocking removes that one obstacle and no other. -/
theorem mem_unblock {b : Board} {c e : Cell} :
    e ∈ (b.unblock c).obstacles ↔ e ∈ b.obstacles ∧ e ≠ c := by
  unfold unblock unblock?
  by_cases hmem : c ∈ b.obstacles
  · rw [if_pos (isBlocked_iff.mpr hmem)]
    exact CellSet.mem_erase
  · rw [if_neg (fun hb => hmem (isBlocked_iff.mp hb))]
    exact ⟨fun h => ⟨h, fun he => hmem (he ▸ h)⟩, And.left⟩

/-! ## Legal boards -/

/-- Obstacles stand on the grid and not on the actor's cell. -/
def Legal (b : Board) : Prop :=
  ∀ c ∈ b.obstacles, b.accepts c = true

/-- A board without obstacles is legal. -/
theorem legal_empty (grid : Grid) : (empty grid).Legal :=
  fun _ h => absurd h List.not_mem_nil

/-- Which cells are accepted does not depend on the obstacles, so blocking keeps it. -/
theorem accepts_block (b : Board) (c : Cell) : (b.block c).accepts = b.accepts := by
  funext e
  unfold accepts
  rw [grid_block]

/-- Unblocking does not change which cells are accepted either. -/
theorem accepts_unblock (b : Board) (c : Cell) : (b.unblock c).accepts = b.accepts := by
  funext e
  unfold accepts
  rw [grid_unblock]

/-- Blocking keeps a board legal, for a cell that is not accepted is not blocked. -/
theorem Legal.block {b : Board} (h : b.Legal) (c : Cell) : (b.block c).Legal := by
  intro e he
  rw [accepts_block]
  rcases mem_block.mp he with he | ⟨rfl, hacc⟩
  · exact h e he
  · exact hacc

/-- Unblocking keeps a board legal. -/
theorem Legal.unblock {b : Board} (h : b.Legal) (c : Cell) : (b.unblock c).Legal := by
  intro e he
  rw [accepts_unblock]
  exact h e (mem_unblock.mp he).1

/-- A layout of obstacles leaves the grid alone. -/
theorem grid_foldl_block (offsets : List (Int × Int)) (b : Board) :
    (offsets.foldl (fun b o => b.block (b.grid.center.shift o.1 o.2)) b).grid = b.grid := by
  induction offsets generalizing b with
  | nil => rfl
  | cons o rest ih => rw [List.foldl_cons, ih, grid_block]

/-- Laying out obstacles one after the other keeps a board legal. -/
theorem Legal.foldl_block (offsets : List (Int × Int)) {b : Board} (h : b.Legal) :
    (offsets.foldl (fun b o => b.block (b.grid.center.shift o.1 o.2)) b).Legal := by
  induction offsets generalizing b with
  | nil => exact h
  | cons o rest ih => exact ih (h.block _)

/-- No change leaves the grid. -/
@[simp] theorem grid_apply (b : Board) (change : Change) : (b.apply change).grid = b.grid := by
  cases change with
  | block c => exact grid_block b c
  | unblock c => exact grid_unblock b c
  | toggle c =>
    by_cases hmem : c ∈ b.obstacles
    · rw [apply, toggle_of_mem hmem, grid_unblock]
    · rw [apply, toggle_of_not_mem hmem, grid_block]
  | clear => rfl
  | addSample => exact grid_foldl_block sampleOffsets b

/-- No run of changes touches the grid. -/
@[simp] theorem grid_run (b : Board) (changes : List Change) : (b.run changes).grid = b.grid := by
  induction changes generalizing b with
  | nil => rfl
  | cons change rest ih => exact (ih (b.apply change)).trans (grid_apply b change)

/-- A change keeps a board legal. -/
theorem Legal.apply {b : Board} (h : b.Legal) (change : Change) : (b.apply change).Legal := by
  cases change with
  | block c => exact h.block c
  | unblock c => exact h.unblock c
  | toggle c =>
    by_cases hmem : c ∈ b.obstacles
    · rw [Board.apply, toggle_of_mem hmem]
      exact h.unblock c
    · rw [Board.apply, toggle_of_not_mem hmem]
      exact h.block c
  | clear => exact fun _ he => absurd he List.not_mem_nil
  | addSample => exact h.foldl_block sampleOffsets

/-- Every board that is reached from a legal one is legal. -/
theorem Legal.run {b : Board} (h : b.Legal) (changes : List Change) : (b.run changes).Legal := by
  induction changes generalizing b with
  | nil => exact h
  | cons change rest ih => exact ih (h.apply change)

/-- Every board that changes lead to from an empty one is legal. -/
theorem legal_run (grid : Grid) (changes : List Change) : ((empty grid).run changes).Legal :=
  (legal_empty grid).run changes

/-! ## Boards from toggles -/

/-- A board is its grid and its obstacles. -/
theorem ext_of_grid {b b' : Board} (hg : b.grid = b'.grid) (ho : b.obstacles = b'.obstacles) :
    b = b' := by
  obtain ⟨g, o⟩ := b
  obtain ⟨g', o'⟩ := b'
  rw [Board.mk.injEq]
  exact ⟨hg, ho⟩

/-- Toggling cells without an obstacle, each once, puts an obstacle on each. -/
theorem mem_run_toggles {cells : List Cell} (hnodup : cells.Nodup) {b : Board}
    (hfree : ∀ c ∈ cells, c ∉ b.obstacles) (haccepts : ∀ c ∈ cells, b.accepts c = true)
    {e : Cell} :
    e ∈ (b.run (cells.map .toggle)).obstacles ↔ e ∈ b.obstacles ∨ e ∈ cells := by
  induction cells generalizing b with
  | nil => simp [run]
  | cons c rest ih =>
    obtain ⟨hnew, hnodup⟩ := List.nodup_cons.1 hnodup
    have hc : b.accepts c = true := haccepts c List.mem_cons_self
    have hstep : b.run ((c :: rest).map .toggle) = (b.block c).run (rest.map .toggle) := by
      rw [← toggle_of_not_mem (hfree c List.mem_cons_self)]
      rfl
    rw [hstep, ih hnodup]
    · rw [mem_block, List.mem_cons, or_assoc]
      simp [hc]
    · intro d hd hmem
      rcases mem_block.1 hmem with hmem | ⟨rfl, -⟩
      · exact hfree d (List.mem_cons_of_mem _ hd) hmem
      · exact hnew hd
    · intro d hd
      rw [accepts_block]
      exact haccepts d (List.mem_cons_of_mem _ hd)

/-- A legal board is made from the empty one by toggling its obstacles. -/
theorem run_toggles_eq {b : Board} (h : b.Legal) {cells : List Cell} (hnodup : cells.Nodup)
    (hmem : ∀ c, c ∈ cells ↔ c ∈ b.obstacles) : (empty b.grid).run (cells.map .toggle) = b := by
  have hfree : ∀ c, c ∉ (empty b.grid).obstacles := fun _ => List.not_mem_nil
  refine ext_of_grid (grid_run _ _) (CellSet.ext fun c => ?_)
  have haccepts : ∀ c ∈ cells, (empty b.grid).accepts c = true :=
    fun c hc => h c ((hmem c).1 hc)
  refine (mem_run_toggles hnodup (fun c _ => hfree c) haccepts).trans ?_
  rw [hmem]
  exact or_iff_right (hfree c)

end Reticle.Board
