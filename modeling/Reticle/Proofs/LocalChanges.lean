import Reticle.Proofs.BoardRuns
import Reticle.Proofs.Fingerprint

/-!
# Changes of single cells

Blocking, unblocking and toggling are about one cell each: whether another cell is blocked does not
show in them and is not touched by them. So a run of such changes is seen by a cell as the run of
its own changes (`AgreeAt.run`), and runs with the same changes of every cell, however they are
mixed, lead to the same obstacles. Toggling is its own inverse, since a board that refuses an
obstacle has none to take away.
-/

namespace Reticle.Board

/-- The cell that a change is about. -/
def Change.cell? : Change → Option Cell
  | block c | unblock c | toggle c => some c
  | clear | addSample => none

/-- The changes of one cell, in their order. -/
def Change.atCell (changes : List Change) (c : Cell) : List Change :=
  changes.filter fun change => change.cell? == some c

/-! ## What a cell sees of a change -/

/-- Two boards of one grid agree on whether a cell is blocked. -/
structure AgreeAt (c : Cell) (b b' : Board) : Prop where
  grid : b.grid = b'.grid
  mem_iff : c ∈ b.obstacles ↔ c ∈ b'.obstacles

/-- A board agrees with itself. -/
theorem AgreeAt.refl (c : Cell) (b : Board) : AgreeAt c b b :=
  ⟨rfl, Iff.rfl⟩

/-- Boards that agree at a cell are of one grid, so they accept the same cells. -/
theorem AgreeAt.accepts_eq {c : Cell} {b b' : Board} (h : AgreeAt c b b') (d : Cell) :
    b.accepts d = b'.accepts d := by
  unfold accepts
  rw [h.grid]

/-- Toggling changes its own cell only, and that one if it was blocked or is accepted. -/
theorem mem_toggle {b : Board} {c e : Cell} :
    e ∈ (b.toggle c).obstacles ↔
      if e = c then c ∉ b.obstacles ∧ b.accepts c = true else e ∈ b.obstacles := by
  by_cases hmem : c ∈ b.obstacles
  · rw [toggle_of_mem hmem, mem_unblock]
    by_cases he : e = c
    · simp [he, hmem]
    · simp [he]
  · rw [toggle_of_not_mem hmem, mem_block]
    by_cases he : e = c
    · simp [he, hmem]
    · simp [he]

/-- A change of another cell goes unseen. -/
theorem AgreeAt.apply_left {c d : Cell} {b b' : Board} (h : AgreeAt c b b') {change : Change}
    (hcell : change.cell? = some d) (hne : c ≠ d) : AgreeAt c (b.apply change) b' := by
  refine ⟨(grid_apply b change).trans h.grid, Iff.trans ?_ h.mem_iff⟩
  cases change with
  | block e =>
    obtain rfl := Option.some.inj hcell
    exact mem_block.trans (by simp [hne])
  | unblock e =>
    obtain rfl := Option.some.inj hcell
    exact mem_unblock.trans (by simp [hne])
  | toggle e =>
    obtain rfl := Option.some.inj hcell
    exact mem_toggle.trans (by simp [hne])
  | clear => cases hcell
  | addSample => cases hcell

/-- A change of the cell does the same to both. -/
theorem AgreeAt.apply {c : Cell} {b b' : Board} (h : AgreeAt c b b') {change : Change}
    (hcell : change.cell? = some c) : AgreeAt c (b.apply change) (b'.apply change) := by
  refine ⟨by rw [grid_apply, grid_apply, h.grid], ?_⟩
  cases change with
  | block e =>
    obtain rfl := Option.some.inj hcell
    exact mem_block.trans (by rw [h.mem_iff, h.accepts_eq, ← mem_block]; rfl)
  | unblock e =>
    obtain rfl := Option.some.inj hcell
    exact mem_unblock.trans (by rw [h.mem_iff, ← mem_unblock]; rfl)
  | toggle e =>
    obtain rfl := Option.some.inj hcell
    exact mem_toggle.trans (by rw [h.mem_iff, h.accepts_eq, ← mem_toggle]; rfl)
  | clear => cases hcell
  | addSample => cases hcell

/-- A run of changes of single cells looks, from a cell, like the run of its own changes. -/
theorem AgreeAt.run {c : Cell} {changes : List Change} (hlocal : ∀ x ∈ changes, x.cell?.isSome)
    {b b' : Board} (h : AgreeAt c b b') :
    AgreeAt c (b.run changes) (b'.run (Change.atCell changes c)) := by
  induction changes generalizing b b' with
  | nil => exact h
  | cons change rest ih =>
    have hrest : ∀ x ∈ rest, x.cell?.isSome := fun x hx => hlocal x (List.mem_cons_of_mem _ hx)
    obtain ⟨d, hd⟩ := Option.isSome_iff_exists.1 (hlocal change List.mem_cons_self)
    by_cases hcd : c = d
    · subst hcd
      have hkept : Change.atCell (change :: rest) c = change :: Change.atCell rest c :=
        List.filter_cons_of_pos (by simpa using hd)
      rw [hkept]
      exact ih hrest (h.apply hd)
    · have hdropped : Change.atCell (change :: rest) c = Change.atCell rest c :=
        List.filter_cons_of_neg (by simpa [hd] using Ne.symm hcd)
      rw [hdropped]
      exact ih hrest (h.apply_left hd hcd)

/-! ## Runs with the same changes of every cell -/

/-- Two runs of changes of single cells that change every cell in the same way. -/
structure SameAtCells (changes others : List Change) : Prop where
  local_left : ∀ x ∈ changes, x.cell?.isSome
  local_right : ∀ x ∈ others, x.cell?.isSome
  atCell_eq : ∀ c, Change.atCell changes c = Change.atCell others c

/-- Changes that are the same at every cell lead to the same board. -/
theorem SameAtCells.run_eq {changes others : List Change} (h : SameAtCells changes others)
    (b : Board) : b.run changes = b.run others := by
  refine ext_of_grid (by rw [grid_run, grid_run]) (CellSet.ext fun c => ?_)
  have hleft := ((AgreeAt.refl c b).run h.local_left).mem_iff
  have hright := ((AgreeAt.refl c b).run h.local_right).mem_iff
  rw [hleft, hright, h.atCell_eq]

/-! ## Toggling twice -/

/-- Toggling twice gives a legal board back. -/
theorem Legal.toggle_toggle {b : Board} (h : b.Legal) (c : Cell) : (b.toggle c).toggle c = b := by
  have hgrid : ∀ b : Board, (b.toggle c).grid = b.grid := fun b => grid_apply b (.toggle c)
  refine ext_of_grid (by rw [hgrid, hgrid]) (CellSet.ext fun e => ?_)
  have haccepts : (b.toggle c).accepts c = b.accepts c := by
    unfold accepts
    rw [hgrid]
  rw [mem_toggle]
  by_cases he : e = c
  · subst he
    rw [if_pos rfl, mem_toggle, if_pos rfl, haccepts]
    constructor
    · rintro ⟨hfreed, haccepted⟩
      exact Classical.byContradiction fun hmem => hfreed ⟨hmem, haccepted⟩
    · intro hmem
      exact ⟨fun hblocked => hblocked.1 hmem, h e hmem⟩
  · rw [if_neg he, mem_toggle, if_neg he]

/-- Whatever was done to a board, its obstacles stand on the grid and not on the actor's cell,
toggling a cell twice changes nothing, and changes of single cells lead to the same obstacles, and
so to the same fingerprint, in every order that keeps the order of the changes of each cell. -/
theorem run_legal_and_local (grid : Grid) (before : List Change) :
    (∀ c ∈ ((empty grid).run before).obstacles, grid.contains c = true ∧ c ≠ grid.center) ∧
    (∀ c, ((((empty grid).run before).toggle c).toggle c).obstacles =
      ((empty grid).run before).obstacles) ∧
    (∀ changes others, SameAtCells changes others →
      (((empty grid).run before).run changes).obstacles =
          (((empty grid).run before).run others).obstacles ∧
        (((empty grid).run before).run changes).fingerprint =
          (((empty grid).run before).run others).fingerprint) := by
  have hlegal := legal_run grid before
  refine ⟨fun c hc => ?_, fun c => ?_, fun changes others h => ?_⟩
  · have haccepted := accepts_iff.1 (hlegal c hc)
    rw [grid_run] at haccepted
    exact haccepted
  · rw [hlegal.toggle_toggle c]
  · have hobstacles := congrArg obstacles (h.run_eq ((empty grid).run before))
    exact ⟨hobstacles, fingerprint_inj.2 hobstacles⟩

/-- Changes of two cells, one of which is the actor's on a grid of three cells a side. -/
def exampleChanges : List Change :=
  [.toggle ⟨0, 1⟩, .toggle ⟨1, 1⟩, .block ⟨0, 1⟩, .unblock ⟨0, 1⟩, .toggle ⟨0, 1⟩]

/-- The same changes of each cell, the other cell's first. -/
def exampleOthers : List Change :=
  [.toggle ⟨1, 1⟩, .toggle ⟨0, 1⟩, .block ⟨0, 1⟩, .unblock ⟨0, 1⟩, .toggle ⟨0, 1⟩]

/-- On a small grid with the sample layout, of which only two cells lie on it, the example changes
lead to the same obstacles in both orders. -/
theorem run_legal_and_local_example :
    SameAtCells exampleChanges exampleOthers ∧
      (((empty (.ofSide 3)).run [.addSample]).run exampleChanges).fingerprint =
        (((empty (.ofSide 3)).run [.addSample]).run exampleOthers).fingerprint ∧
      (((empty (.ofSide 3)).run [.addSample]).run exampleChanges).fingerprint = "0,0|0,1|2,2" := by
  have hsame : SameAtCells exampleChanges exampleOthers := by
    refine ⟨by decide, by decide, fun c => ?_⟩
    by_cases hfirst : c = ⟨0, 1⟩
    · subst hfirst
      decide
    · by_cases hactor : c = ⟨1, 1⟩
      · subst hactor
        decide
      · simp [Change.atCell, Change.cell?, exampleChanges, exampleOthers, Ne.symm hfirst,
          Ne.symm hactor]
  have hequal := (run_legal_and_local (.ofSide 3) [.addSample]).2.2 _ _ hsame
  exact ⟨hsame, hequal.2, by decide +kernel⟩

end Reticle.Board
