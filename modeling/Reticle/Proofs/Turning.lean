import Reticle.Proofs.Motions

/-!
# Turning the board

The quarter turn about the middle of the grid takes cells to cells, and steps in one direction to
steps in the turned one. The walk that looks for obstacles on a path prefers one end and one side,
so it is not turned with its ends. What it decides is whether a segment runs through a square, and
that is kept by the turn, which is a motion (`Board.pathClear_turn`).
-/

namespace Reticle

/-! ## Cells -/

namespace Grid

/-- The image of a cell under the quarter turn about the middle that takes up to the left. -/
def turn (g : Grid) (c : Cell) : Cell :=
  ⟨2 * g.reach - c.col, c.row⟩

/-- The cell that is turned to a given one. -/
def turnBack (g : Grid) (c : Cell) : Cell :=
  ⟨c.col, 2 * g.reach - c.row⟩

variable {g : Grid}

/-- Turning a grid is the quarter turn around its centre. -/
theorem turn_eq_quarterTurn (c : Cell) : g.turn c = Motion.quarterTurn g.center c := by
  show _ = Cell.mk (g.center.row - (c.col - g.center.col)) (g.center.col + (c.row - g.center.row))
  simp only [turn, center, Cell.mk.injEq]
  omega

/-- Turning back undoes turning. -/
@[simp] theorem turnBack_turn (c : Cell) : g.turnBack (g.turn c) = c := by
  simp [turn, turnBack]

/-- Turning undoes turning back. -/
@[simp] theorem turn_turnBack (c : Cell) : g.turn (g.turnBack c) = c := by
  simp [turn, turnBack]

/-- Different cells are turned to different cells. -/
theorem turn_injective : Function.Injective g.turn :=
  Function.LeftInverse.injective turnBack_turn

/-- The centre stays where it is. -/
@[simp] theorem turn_center : g.turn g.center = g.center := by
  simp only [turn, center, Cell.mk.injEq, and_true]
  omega

/-- Turning keeps cells on the grid, and off it. -/
@[simp] theorem contains_turn (c : Cell) : g.contains (g.turn c) = g.contains c := by
  rw [Bool.eq_iff_iff, contains_iff, contains_iff]
  simp only [turn, side]
  omega

/-- Only the centre is turned to the centre. -/
theorem turn_eq_center_iff {c : Cell} : g.turn c = g.center ↔ c = g.center := by
  conv => lhs; rw [← g.turn_center]
  exact turn_injective.eq_iff

/-- Statements about all cells may be made about their images. -/
theorem exists_turn {P : Cell → Prop} : (∃ c, P (g.turn c)) ↔ ∃ c, P c :=
  ⟨fun ⟨c, h⟩ => ⟨_, h⟩, fun ⟨c, h⟩ => ⟨g.turnBack c, by rwa [turn_turnBack]⟩⟩

/-- A step becomes a step in the turned direction. -/
theorem turn_step (c : Cell) (d : Direction) (k : Int) :
    g.turn (c.step d k) = (g.turn c).step d.quarterTurn k := by
  simp only [turn, Cell.step, Cell.shift, d.row_quarterTurn, d.col_quarterTurn, neg_mul,
    Cell.mk.injEq, and_true]
  omega

/-- Turning keeps distances. -/
theorem manhattan_turn (a b : Cell) : (g.turn a).manhattan (g.turn b) = a.manhattan b := by
  simp only [turn, Cell.manhattan]
  omega

end Grid

/-! ## Directions -/

namespace Direction

/-- The directions of a list, turned, are the directions of the list. -/
def Closed (directions : List Direction) : Prop :=
  ∀ d, d.quarterTurn ∈ directions ↔ d ∈ directions

/-- The cardinal directions turn into each other. -/
theorem closed_cardinals : Closed cardinals := by
  intro d
  cases d <;> decide

/-- The diagonal directions turn into each other. -/
theorem closed_diagonals : Closed diagonals := by
  intro d
  cases d <;> decide

/-- All directions turn into each other. -/
theorem closed_all : Closed all := fun d => iff_of_true (mem_all _) (mem_all d)

/-- Every direction is a quarter turn of another. -/
theorem exists_quarterTurn (d : Direction) : ∃ e : Direction, e.quarterTurn = d :=
  ⟨d.quarterTurn.quarterTurn.quarterTurn, by cases d <;> rfl⟩

/-- Statements about some direction of a closed list may be made about its image. -/
theorem Closed.exists_iff {directions : List Direction} (h : Closed directions)
    {P : Direction → Prop} :
    (∃ d ∈ directions, P d.quarterTurn) ↔ ∃ d ∈ directions, P d := by
  constructor
  · rintro ⟨d, hd, hP⟩
    exact ⟨_, (h d).2 hd, hP⟩
  · rintro ⟨d, hd, hP⟩
    obtain ⟨e, rfl⟩ := d.exists_quarterTurn
    exact ⟨e, (h e).1 hd, hP⟩

end Direction

/-! ## Boards -/

/-- The set of the cells of a list. -/
def CellSet.ofList (cells : List Cell) : CellSet :=
  cells.foldl .insert .empty

/-- A set made from a list has the cells of the list. -/
theorem CellSet.mem_ofList {cells : List Cell} {c : Cell} : c ∈ ofList cells ↔ c ∈ cells := by
  have hfold : ∀ s : CellSet, c ∈ cells.foldl .insert s ↔ c ∈ s ∨ c ∈ cells := by
    induction cells with
    | nil => simp
    | cons d cells ih =>
      intro s
      rw [List.foldl_cons, ih, mem_insert, List.mem_cons]
      tauto
  have hempty : c ∉ CellSet.empty := List.not_mem_nil
  rw [ofList, hfold, or_iff_right hempty]

namespace Board

/-- The board with every obstacle turned. -/
def turn (b : Board) : Board :=
  ⟨b.grid, .ofList (b.obstacles.cells.map b.grid.turn)⟩

variable {b : Board}

/-- The obstacles of a turned board are the turned obstacles. -/
theorem turn_mem_obstacles {c : Cell} : b.grid.turn c ∈ b.turn.obstacles ↔ c ∈ b.obstacles := by
  rw [turn, CellSet.mem_ofList, List.mem_map_of_injective Grid.turn_injective]
  rfl

/-- A turned cell is blocked on the turned board when the cell is. -/
theorem isBlocked_turn (c : Cell) : b.turn.isBlocked (b.grid.turn c) = b.isBlocked c := by
  rw [Bool.eq_iff_iff, isBlocked_iff, isBlocked_iff, turn_mem_obstacles]

end Board

/-! ## Paths -/

/-- The turn is a motion, so it keeps what bars a path. -/
theorem Bars.turn_iff {g : Grid} {c start goal : Cell} :
    Bars (g.turn c) (g.turn start) (g.turn goal) ↔ Bars c start goal := by
  simp only [Grid.turn_eq_quarterTurn]
  exact (Motion.quarterTurn g.center).bars_iff

/-- A path is clear exactly if its image is clear on the turned board. -/
theorem Board.pathClear_turn {b : Board} (c : Cell) :
    b.turn.pathClear (b.grid.turn c) = b.pathClear c := by
  have hbars : ∀ o,
      Bars (b.grid.turn o) b.grid.center (b.grid.turn c) ↔ Bars o b.grid.center c := by
    intro o
    conv => lhs; rw [← b.grid.turn_center]
    exact Bars.turn_iff
  rw [Bool.eq_iff_iff, pathClear_iff, pathClear_iff]
  constructor
  · intro h o ho hbar
    exact h _ (turn_mem_obstacles.2 ho) ((hbars o).2 hbar)
  · intro h o ho hbar
    change Bars o b.grid.center _ at hbar
    rw [← Grid.turn_turnBack (g := b.grid) o] at ho hbar
    exact h _ (turn_mem_obstacles.1 ho) ((hbars _).1 hbar)

end Reticle
