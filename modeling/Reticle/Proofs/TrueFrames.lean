import Reticle.Proofs.Answers
import Reticle.Proofs.Frames

/-!
# What a frame tells

Marks that fall off the grid are not to be seen, so a frame is only as good as the answers it is
drawn from: were an obstacle, a target or an affected cell off the grid, the frame would hide it.
Every session that is reached has its obstacles on the grid and a scenario with sound answers, so
its frame marks of each cell, on or off the grid, exactly what is true of the cell
(`Session.Settled.marksAt_frame`), whatever was edited, rendered or hovered before.
-/

namespace Reticle

/-! ## Frames that leave nothing out -/

namespace Frame

/-- A frame shows the marks of all cells if there are none off the grid. -/
theorem marksAt_tabulate_of_none {grid : Grid} {marks : Cell → Marks}
    (h : ∀ c, ¬ grid.contains c = true → marks c = .none) (c : Cell) :
    (tabulate grid marks).marksAt c = marks c := by
  by_cases hc : grid.contains c = true
  · exact marksAt_tabulate hc
  · rw [h c hc]
    exact if_neg hc

/-- A frame has as many rows as the grid, and each has as many cells. -/
def IsSquare (f : Frame) : Prop :=
  f.rows.length = f.grid.side ∧ ∀ row ∈ f.rows, row.length = f.grid.side

/-- A tabulated frame has as many rows and columns as the grid. -/
theorem isSquare_tabulate (grid : Grid) (marks : Cell → Marks) : (tabulate grid marks).IsSquare := by
  constructor
  · show ((List.range grid.side).map _).length = grid.side
    rw [List.length_map, List.length_range]
  · intro row hrow
    obtain ⟨n, -, rfl⟩ := List.mem_map.1 hrow
    rw [List.length_map, List.length_range]
    rfl

end Frame

namespace Scenario

/-- The cells that hovering over a target shows as affected: its area, or the target alone if it has
none. -/
def previewCells (s : Scenario) (board : Board) (c : Cell) : List Cell :=
  if (s.areaCells board c).isEmpty then [c] else s.areaCells board c

/-- A preview is shown for targets only. -/
theorem preview_eq (s : Scenario) (board : Board) (c : Cell) :
    s.preview board c =
      if s.isTargetable board c then some ⟨c, s.previewCells board c⟩ else none :=
  rfl

/-- A cell is affected by what is hovered if that is a target and shows the cell. -/
theorem any_affected_preview {s : Scenario} {board : Board} {c e : Cell} :
    (s.preview board e).any (·.affected.contains c) = true ↔
      s.isTargetable board e = true ∧ c ∈ s.previewCells board e := by
  rw [preview_eq]
  split
  · next htarget => rw [Option.any_some, List.contains_iff_mem, and_iff_right htarget]
  · next htarget =>
    rw [Option.any_none]
    exact ⟨fun h => absurd h Bool.false_ne_true, fun h => absurd h.1 htarget⟩

/-- Without a hover the area around the centre is shown, for rules that always show it. -/
theorem mem_shown_iff {s : Scenario} {board : Board} {c : Cell} :
    c ∈ s.shown board ↔ s.alwaysShown = true ∧ c ∈ s.areaCells board board.grid.center := by
  unfold shown
  split
  · next hshown => rw [and_iff_right hshown]
  · next hshown => exact ⟨fun h => absurd h List.not_mem_nil, fun h => absurd h.1 hshown⟩

end Scenario

namespace Session

/-! ## What is true of a cell -/

/-- A cell is affected: it is in the area that is shown without a choice, or in the preview of a
target that is hovered. -/
def IsAffected (s : Session) (c : Cell) : Prop :=
  ∃ rendered, s.rendered? = some rendered ∧
    (rendered.scenario.alwaysShown = true ∧
        c ∈ rendered.scenario.areaCells s.board s.board.grid.center ∨
      ∃ e, s.hovered = some e ∧ s.isTarget e = true ∧ c ∈ rendered.scenario.previewCells s.board e)

variable {s : Session} {grid : Grid} {c : Cell}

/-- The mark of an area stands on the cells that are affected. -/
theorem area_trueMarks_iff : (s.trueMarks c).area = true ↔ s.IsAffected c := by
  show (s.shownCells.contains c || s.hoverPreview.any (·.affected.contains c)) = true ↔ _
  unfold IsAffected shownCells hoverPreview
  cases hr : s.rendered? with
  | none => simp
  | some rendered =>
    simp only [Option.map_some, Option.getD_some, Option.bind_some, Bool.or_eq_true,
      List.contains_iff_mem, Scenario.mem_shown_iff, Option.some.injEq, exists_eq_left']
    apply or_congr_right
    cases s.hovered with
    | none => simp
    | some e =>
      rw [Option.bind_some, Scenario.any_affected_preview]
      simp only [Option.some.injEq, exists_eq_left', isTarget_eq hr]

/-! ## Nothing off the grid -/

/-- The scenario of a settled session gives sound answers. -/
theorem Settled.sound (hs : s.Settled grid) {rendered : Rendered}
    (hr : s.rendered? = some rendered) (board : Board) (c : Cell) :
    ∃ sparesActor, (rendered.scenario.survey board).Sound grid sparesActor c := by
  obtain ⟨given, hrender⟩ := hs.exists_render_eq hr
  exact ⟨_, (built_of_render hrender).sound board c⟩

/-- Targets lie on the grid. -/
theorem Settled.contains_of_isTarget (hs : s.Settled grid) (h : s.isTarget c = true) :
    grid.contains c = true := by
  cases hr : s.rendered? with
  | none =>
    rw [isTarget_of_none hr] at h
    cases h
  | some rendered =>
    rw [isTarget_eq hr] at h
    obtain ⟨_, hsound⟩ := hs.sound hr s.board c
    by_contra hout
    have hnone : rendered.scenario.isTargetable s.board c = false :=
      hsound.isTargetable_eq_false (eq_false_of_ne_true hout)
    rw [hnone] at h
    cases h

/-- Affected cells lie on the grid. -/
theorem Settled.contains_of_isAffected (hs : s.Settled grid) (h : s.IsAffected c) :
    grid.contains c = true := by
  obtain ⟨rendered, hr, ⟨-, hmem⟩ | ⟨e, -, htarget, hmem⟩⟩ := h
  · obtain ⟨_, hsound⟩ := hs.sound hr s.board s.board.grid.center
    exact hsound.lists.inside c hmem
  · obtain ⟨_, hsound⟩ := hs.sound hr s.board e
    unfold Scenario.previewCells at hmem
    split at hmem
    · rw [List.mem_singleton.1 hmem]
      exact hs.contains_of_isTarget htarget
    · exact hsound.lists.inside c hmem

/-- Obstacles lie on the grid and off its centre. -/
theorem Settled.contains_of_isBlocked (hs : s.Settled grid) (h : s.board.isBlocked c = true) :
    grid.contains c = true ∧ c ≠ grid.center := by
  have haccepts := Board.accepts_iff.1 (hs.legal c (Board.isBlocked_iff.1 h))
  rwa [hs.grid_eq] at haccepts

/-- Nothing is true of a cell off the grid. -/
theorem Settled.trueMarks_of_not_contains (hs : s.Settled grid)
    (hc : ¬ grid.contains c = true) : s.trueMarks c = .none := by
  have horigin : (c == s.board.grid.center) = false := by
    rw [beq_eq_false_iff_ne, hs.grid_eq]
    rintro rfl
    exact hc grid.contains_center
  have hblocked : s.board.isBlocked c = false :=
    eq_false_of_ne_true fun h => hc (hs.contains_of_isBlocked h).1
  have hrange : s.isTarget c = false :=
    eq_false_of_ne_true fun h => hc (hs.contains_of_isTarget h)
  have htarget : s.hoverPreview.any (·.target == c) = false :=
    eq_false_of_ne_true fun h => hc (hs.contains_of_isTarget (any_target_hoverPreview.1 h).2)
  have harea : (s.trueMarks c).area = false :=
    eq_false_of_ne_true fun h => hc (hs.contains_of_isAffected (area_trueMarks_iff.1 h))
  have hmarks : s.trueMarks c = ⟨c == s.board.grid.center, s.board.isBlocked c, s.isTarget c,
      s.hoverPreview.any (·.target == c), (s.trueMarks c).area⟩ := rfl
  rw [hmarks, horigin, hblocked, hrange, htarget, harea]
  rfl

/-- A frame marks of every cell what is true of it, and nothing else. -/
theorem Settled.marksAt_frame (hs : s.Settled grid) (c : Cell) :
    s.frame.marksAt c = s.trueMarks c := by
  rw [hs.frame_eq_tabulate]
  exact Frame.marksAt_tabulate_of_none (fun e he => hs.trueMarks_of_not_contains he) c

/-! ## Hovering over no target -/

/-- Hovering over a cell that is no target shows as much as hovering over no cell. -/
theorem Settled.frame_hover_of_not_isTarget (hs : s.Settled grid) (h : s.isTarget c = false) :
    (s.hover c).frame = s.unhover.frame := by
  have hhover : (s.hover c).Settled grid := hs.apply (.hover c)
  have hunhover : s.unhover.Settled grid := hs.apply .unhover
  have hnone : (s.hover c).hoverPreview = s.unhover.hoverPreview := by
    show (s.rendered?.bind fun rendered => rendered.scenario.preview s.board c) =
      s.rendered?.bind fun rendered => none
    cases hr : s.rendered? with
    | none => rfl
    | some rendered =>
      rw [isTarget_eq hr] at h
      rw [Option.bind_some, Option.bind_some, Scenario.preview_eq, h]
      rfl
  rw [hhover.frame_eq_tabulate, hunhover.frame_eq_tabulate]
  congr 1
  funext e
  unfold trueMarks
  rw [hnone]
  rfl

/-- The frame of a session tells the truth about the session. -/
structure FrameTells (s : Session) (grid : Grid) : Prop where
  grid_eq : s.frame.grid = grid
  square : s.frame.IsSquare
  origin_iff : ∀ c, (s.frame.marksAt c).origin = true ↔ c = grid.center
  blocked_iff : ∀ c, (s.frame.marksAt c).blocked = true ↔ c ∈ s.board.obstacles
  center_free : (s.frame.marksAt grid.center).blocked = false
  inRange_iff : ∀ c, (s.frame.marksAt c).inRange = true ↔
    grid.contains c = true ∧ s.isTarget c = true
  target_iff : ∀ c, (s.frame.marksAt c).target = true ↔
    s.hovered = some c ∧ s.isTarget c = true
  inRange_of_target : ∀ c, (s.frame.marksAt c).target = true →
    (s.frame.marksAt c).inRange = true
  area_iff : ∀ c, (s.frame.marksAt c).area = true ↔ s.IsAffected c
  /-- Hovering over a cell that is no target, even one off the grid, shows nothing more. -/
  hover_eq : ∀ c, s.isTarget c = false → (s.hover c).frame = s.unhover.frame

/-- The frame tells the truth, whatever was done in the session before: its marks of every cell are
those of the actor, the obstacles, the targets, the hovered target and the affected cells, and no
cell carries others. -/
theorem frameTells_run (grid : Grid) (options : RenderOptions) (changes : List Change) :
    ((start grid options).run changes).FrameTells grid := by
  have hs := settled_run grid options changes
  generalize (start grid options).run changes = s at hs
  -- Every mark of the frame is a mark of the settled session, cell by cell.
  have hmarks := hs.marksAt_frame
  have htarget : ∀ c, (s.frame.marksAt c).target = true ↔
      s.hovered = some c ∧ s.isTarget c = true := by
    intro c
    rw [hmarks]
    exact any_target_hoverPreview
  have hrange : ∀ c, (s.frame.marksAt c).inRange = s.isTarget c := by
    intro c
    rw [hmarks]
    rfl
  have hblocked : ∀ c, (s.frame.marksAt c).blocked = s.board.isBlocked c := by
    intro c
    rw [hmarks]
    rfl
  refine ⟨?_, ?_, fun c => ?_, fun c => ?_, ?_, fun c => ?_, htarget, fun c h => ?_, fun c => ?_,
    fun c h => hs.frame_hover_of_not_isTarget h⟩
  · rw [hs.frame_eq_tabulate]
    rfl
  · rw [hs.frame_eq_tabulate]
    exact Frame.isSquare_tabulate grid s.trueMarks
  · rw [hmarks, ← hs.grid_eq]
    exact beq_iff_eq
  · rw [hblocked]
    exact Board.isBlocked_iff
  · rw [hblocked]
    exact eq_false_of_ne_true fun h => (hs.contains_of_isBlocked h).2 rfl
  · rw [hrange]
    exact ⟨fun h => ⟨hs.contains_of_isTarget h, h⟩, And.right⟩
  · rw [hrange]
    exact ((htarget c).1 h).2
  · rw [hmarks]
    exact area_trueMarks_iff

end Session

end Reticle
