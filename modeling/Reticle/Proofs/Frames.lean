import Reticle.Proofs.SettledSessions

/-!
# Frames without a memory

What a settled session shows of the cells is told from its board and its scenario alone, whether or
not it has one (`Session.Settled.frame_eq_tabulate`). So a cell carries the mark of the target when
it is hovered and a target, and the mark of an affected cell when it is in the area that is shown
without a choice or in the preview of the hovered cell.
-/

namespace Reticle

/-! ## What comes from memory -/

/-- A frame whose marks are recalled faithfully is recalled faithfully. -/
theorem Frame.faithful_tabulateM {P : Memory → Prop} (grid : Grid) {recalled : Cell → Recall Marks}
    {marks : Cell → Marks} (h : ∀ c, Recall.Faithful P (recalled c) (marks c)) :
    Recall.Faithful P (tabulateM grid recalled) (tabulate grid marks) := by
  have hrow : ∀ row : Nat, Recall.Faithful P
      ((List.range grid.side).mapM fun (col : Nat) => recalled ⟨row, col⟩)
      ((List.range grid.side).map fun (col : Nat) => marks ⟨row, col⟩) :=
    fun row => Recall.Faithful.mapM (fun (col : Nat) => h ⟨row, col⟩) _
  exact (Recall.Faithful.mapM hrow _).bind (Recall.Faithful.pure _)

namespace Scenario

/-- What choosing a cell on a board would show, if it is a target. -/
def preview (s : Scenario) (board : Board) (c : Cell) : Option Preview :=
  if s.isTargetable board c then
    some ⟨c, if (s.areaCells board c).isEmpty then [c] else s.areaCells board c⟩
  else none

/-- Only a target has a preview, and it is that of itself. -/
theorem any_target_preview {s : Scenario} {board : Board} {c e : Cell} :
    (s.preview board e).any (·.target == c) = true ↔ e = c ∧ s.isTargetable board c = true := by
  unfold preview
  by_cases htarget : s.isTargetable board e = true
  · rw [if_pos htarget, Option.any_some, beq_iff_eq]
    exact ⟨fun heq => ⟨heq, heq ▸ htarget⟩, fun h => h.1⟩
  · rw [if_neg htarget, Option.any_none]
    exact ⟨fun h => absurd h Bool.false_ne_true, fun h => absurd (h.1 ▸ h.2) htarget⟩

/-- The cells of a board that are affected without a choice, as far as they are shown. -/
def shown (s : Scenario) (board : Board) : List Cell :=
  if s.alwaysShown then s.areaCells board board.grid.center else []

/-- The preview of a cell is recalled as it would be computed. -/
theorem faithful_recallPreview (s : Scenario) (board : Board) (c : Cell) :
    Recall.Faithful (s.Trusts board.grid) ((s.outlook board).recallPreview c)
      (s.preview board c) := by
  unfold Outlook.recallPreview preview
  apply (s.faithful_recallTargetable board c).bind
  split
  · exact (s.faithful_recallArea board c).bind (Recall.Faithful.pure _)
  · exact Recall.Faithful.pure _

/-- The area shown without a hover is recalled as it would be computed. -/
theorem faithful_recallShown (s : Scenario) (board : Board) :
    Recall.Faithful (s.Trusts board.grid) (s.recallShown board) (s.shown board) := by
  unfold recallShown shown
  split
  · exact s.faithful_recallArea board _
  · exact Recall.Faithful.pure _

end Scenario

namespace Session

variable {s : Session} {rendered : Rendered} {grid : Grid}

/-- The preview of the hovered cell is recalled as it would be computed. -/
theorem faithful_recallHover (hr : s.rendered? = some rendered) :
    Recall.Faithful s.Trusts s.recallHover
      (s.hovered.bind (rendered.scenario.preview s.board)) := by
  unfold recallHover
  cases s.hovered with
  | none => exact Recall.Faithful.pure _
  | some c =>
    unfold recallPreview
    rw [trusts_of_rendered hr, hr]
    exact rendered.scenario.faithful_recallPreview s.board c

/-- The frame of a rule that can be shown, told from the board and the scenario. -/
theorem Settled.frame_eq (hs : s.Settled grid) (hr : s.rendered? = some rendered) :
    s.frame = Frame.tabulate s.board.grid fun c =>
      { origin := c == s.board.grid.center
        blocked := s.board.isBlocked c
        inRange := rendered.scenario.isTargetable s.board c
        target := (s.hovered.bind (rendered.scenario.preview s.board)).any (·.target == c)
        area := (rendered.scenario.shown s.board).contains c ||
          (s.hovered.bind (rendered.scenario.preview s.board)).any (·.affected.contains c) } := by
  suffices hframe : Recall.Faithful s.Trusts s.recallFrame _ from (hframe s.memory hs.trusts).1
  have hhover := faithful_recallHover hr
  unfold recallFrame
  rw [hr]
  rw [trusts_of_rendered hr] at hhover ⊢
  apply (rendered.scenario.faithful_recallShown s.board).bind
  apply hhover.bind
  apply Frame.faithful_tabulateM
  intro c
  exact (rendered.scenario.faithful_recallTargetable s.board c).bind (Recall.Faithful.pure _)

/-- The frame where no rule can be shown. -/
theorem frame_eq_of_none (hr : s.rendered? = none) :
    s.frame = Frame.tabulate s.board.grid fun c =>
      { Marks.none with origin := c == s.board.grid.center, blocked := s.board.isBlocked c } := by
  unfold frame recallFrame
  rw [hr]
  rfl

/-! ## What a cell carries -/

/-- A cell is a target of the rule that is shown. -/
def isTarget (s : Session) (c : Cell) : Bool :=
  s.rendered?.any fun rendered => rendered.scenario.isTargetable s.board c

/-- The preview of the hovered cell. -/
def hoverPreview (s : Session) : Option Preview :=
  s.rendered?.bind fun rendered => s.hovered.bind (rendered.scenario.preview s.board)

/-- The cells that are shown as affected without a choice. -/
def shownCells (s : Session) : List Cell :=
  (s.rendered?.map fun rendered => rendered.scenario.shown s.board).getD []

/-- The marks that are true of a cell. -/
def trueMarks (s : Session) (c : Cell) : Marks where
  origin := c == s.board.grid.center
  blocked := s.board.isBlocked c
  inRange := s.isTarget c
  target := s.hoverPreview.any (·.target == c)
  area := s.shownCells.contains c || s.hoverPreview.any (·.affected.contains c)

/-- While a scenario is shown, the targets are those of the scenario. -/
theorem isTarget_eq {rendered : Rendered} (hr : s.rendered? = some rendered) (c : Cell) :
    s.isTarget c = rendered.scenario.isTargetable s.board c := by
  unfold isTarget
  rw [hr, Option.any_some]

/-- Without a scenario nothing is a target. -/
theorem isTarget_of_none (hr : s.rendered? = none) (c : Cell) : s.isTarget c = false := by
  unfold isTarget
  rw [hr, Option.any_none]

/-- A preview has a target only where the hovered cell is one. -/
theorem any_target_hoverPreview {c : Cell} :
    s.hoverPreview.any (·.target == c) = true ↔ s.hovered = some c ∧ s.isTarget c = true := by
  unfold hoverPreview
  cases hr : s.rendered? with
  | none =>
    rw [isTarget_of_none hr]
    exact ⟨fun h => absurd h Bool.false_ne_true, fun h => absurd h.2 Bool.false_ne_true⟩
  | some rendered =>
    rw [isTarget_eq hr, Option.bind_some]
    cases s.hovered with
    | none => exact ⟨fun h => absurd h Bool.false_ne_true, fun h => nomatch h.1⟩
    | some e =>
      rw [Option.some.injEq]
      exact Scenario.any_target_preview

/-- A settled session is drawn from what is true of the cells. -/
theorem Settled.frame_eq_tabulate (hs : s.Settled grid) :
    s.frame = Frame.tabulate grid s.trueMarks := by
  cases hr : s.rendered? with
  | none =>
    rw [frame_eq_of_none hr, hs.grid_eq]
    congr 1
    funext c
    unfold trueMarks hoverPreview shownCells
    rw [isTarget_of_none hr, hr, hs.grid_eq]
    rfl
  | some rendered =>
    rw [hs.frame_eq hr, hs.grid_eq]
    congr 1
    funext c
    unfold trueMarks hoverPreview shownCells
    rw [isTarget_eq hr, hr, hs.grid_eq]
    rfl

/-- A cell is marked as affected when it is in the area that is shown without a choice or in the
preview of the hovered cell. -/
theorem Settled.area_marksAt_frame (hs : s.Settled grid) (hr : s.rendered? = some rendered)
    {a : Cell} (ha : grid.contains a = true) :
    (s.frame.marksAt a).area = ((rendered.scenario.shown s.board).contains a ||
      (s.hovered.bind (rendered.scenario.preview s.board)).any (·.affected.contains a)) := by
  rw [hs.frame_eq hr, Frame.marksAt_tabulate (hs.grid_eq ▸ ha)]

/-- A cell is marked as the target when it is hovered and a target. -/
theorem Settled.target_marksAt_frame (hs : s.Settled grid) {c : Cell}
    (hc : grid.contains c = true) :
    (s.frame.marksAt c).target = true ↔ s.hovered = some c ∧ s.isTarget c = true := by
  rw [hs.frame_eq_tabulate, Frame.marksAt_tabulate hc]
  exact any_target_hoverPreview

/-- Off the grid there is nothing to be seen. -/
theorem Settled.marksAt_frame_of_not_contains (hs : s.Settled grid) {c : Cell}
    (hc : ¬ grid.contains c = true) : s.frame.marksAt c = .none := by
  rw [hs.frame_eq_tabulate]
  exact if_neg hc

end Session

end Reticle
