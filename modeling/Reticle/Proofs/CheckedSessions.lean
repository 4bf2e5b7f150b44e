import Reticle.Proofs.CheckedAnswers
import Reticle.Proofs.TrueFrames
import Reticle.Session.Checked

/-!
# Sessions in 32 bits

A session asks for the area of a cell only if the cell is a target, so that the area of a far cell is
never asked for. On grids of at most `2 ^ 28` cells a side a session therefore never faults: whatever
is done to it, it comes to the state of the plain session and shows what that shows
(`Session.checkedRun_eq`). On any grid it comes to nothing else.
-/

namespace Reticle

open Checked

/-- A frame comes out alike when the marks of every cell do. -/
theorem Frame.tabulateM_refines {S : Prop} (grid : Grid) {checked : Cell → Checked Marks}
    {marks : Cell → Marks} (h : ∀ c, (checked c).Refines (marks c) S) :
    (tabulateM grid checked).Refines (tabulate grid marks) S :=
  (Refines.mapM fun _ _ => Refines.mapM fun _ _ => h _).map _

/-- A cell of a grid is a 32-bit cell. -/
theorem Grid.isAddress_of_contains {g : Grid} {c : Cell} (hc : g.contains c = true) :
    c.IsAddress := by
  obtain ⟨hr, hr', hk, hk'⟩ := Grid.contains_iff.1 hc
  have hreach := g.reach_lt
  have hside : g.side = 2 * g.reach + 1 := rfl
  unfold Cell.IsAddress
  omega

namespace Session

variable {s : Session} {grid : Grid} {S : Prop}

section

variable (hS : S → grid.side ≤ 0x10000000)
include hS

/-- The text is rendered anew on the same grid. -/
theorem checkedRebuild_refines (hgrid : s.board.grid = grid) :
    s.checkedRebuild.Refines s.rebuild S := by
  have hsmall : S → 5 * s.board.grid.side ≤ 0x7FFFFFFF := by
    intro h
    have hside := hS h
    rw [hgrid]
    omega
  exact (checkedRender_refines hsmall s.text s.sliders s.options).map _

variable (hs : s.Settled grid) {rendered : Rendered} (hr : s.rendered? = some rendered)
include hs hr

/-- The scenario on show has the same targets with 32-bit numbers. -/
theorem checkedIsTargetable_refines (c : Cell) :
    (rendered.scenario.checkedIsTargetable s.board c).Refines
      (rendered.scenario.isTargetable s.board c) S := by
  obtain ⟨given, hrender⟩ := hs.exists_render_eq hr
  exact checkedIsTargetable_refines_of_render hrender s.board (fun h => ⟨hS h, hs.grid_eq ▸ hS h⟩) c

/-- Cells of the grid have areas that can be computed, also those of dashes. -/
theorem checkedAreaCells_refines {c : Cell} (hc : grid.contains c = true) :
    (rendered.scenario.checkedAreaCells s.board c).Refines
      (rendered.scenario.areaCells s.board c) S := by
  obtain ⟨given, hrender⟩ := hs.exists_render_eq hr
  exact checkedAreaCells_refines_of_render hrender s.board (fun h => ⟨hS h, hs.grid_eq ▸ hS h⟩)
    (Grid.isAddress_of_contains hc) fun _ hfar => Grid.not_liesBeyond_of_contains hc hfar.2

/-- The area is asked for only if the cell is a target, and then it lies on the grid. -/
theorem checkedPreview_refines (c : Cell) :
    (s.checkedPreview c).Refines (rendered.scenario.preview s.board c) S := by
  have htarget := checkedIsTargetable_refines hS hs hr c
  unfold checkedPreview Scenario.preview
  rw [hr]
  refine htarget.bind (.ite (fun hyes => ?_) fun _ => .of_ok none S)
  have hc : grid.contains c = true := hs.contains_of_isTarget (isTarget_eq hr c ▸ hyes)
  exact (checkedAreaCells_refines hS hs hr hc).map _

end

section

variable (hs : s.Settled grid) (hS : S → grid.side ≤ 0x10000000)
include hs hS

/-- What a session shows of its cells. -/
theorem checkedFrame_refines : s.checkedFrame.Refines s.frame S := by
  unfold checkedFrame
  cases hr : s.rendered? with
  | none => exact .of_ok _ S
  | some rendered =>
    have hcenter : grid.contains s.board.grid.center = true := hs.grid_eq ▸ Grid.contains_center _
    have hshown : (rendered.scenario.checkedShown s.board).Refines
        (rendered.scenario.shown s.board) S :=
      .ite (fun _ => checkedAreaCells_refines hS hs hr hcenter) fun _ => .of_ok [] S
    have hhover : s.checkedHover.Refines
        (s.hovered.bind (rendered.scenario.preview s.board)) S := by
      unfold checkedHover
      cases s.hovered with
      | none => exact .of_ok none S
      | some c => exact checkedPreview_refines hS hs hr c
    rw [hs.frame_eq hr]
    refine hshown.bind (hhover.bind (Frame.tabulateM_refines _ fun c => ?_))
    exact (checkedIsTargetable_refines hS hs hr c).map _

/-- A preview is looked at for what it leaves behind. -/
theorem checkedPreview_bind_refines (c : Cell) (t : Session) :
    (do let _preview ← s.checkedPreview c; return t : Checked Session).Refines t S := by
  cases hr : s.rendered? with
  | none =>
    unfold checkedPreview
    rw [hr]
    exact .of_ok t S
  | some rendered => exact (checkedPreview_refines hS hs hr c).map _

/-- A change in 32 bits comes to what the change comes to. -/
theorem checkedApply_refines (change : Change) :
    (s.checkedApply change).Refines (s.apply change) S := by
  cases change with
  | render text => exact checkedRebuild_refines hS hs.grid_eq
  | setOptions options => exact checkedRebuild_refines hS hs.grid_eq
  | setSlider name value =>
    unfold checkedApply
    dsimp only
    cases hset : s.sliders.set? name value with
    | none =>
      rw [apply_setSlider_of_none hset]
      exact .of_ok s S
    | some result =>
      rw [apply_setSlider_of_some hset]
      exact checkedRebuild_refines (s := { s with sliders := result.2 }) hS hs.grid_eq
  | toggleObstacle c => exact .of_ok _ S
  | clearObstacles => exact .of_ok _ S
  | addSample => exact .of_ok _ S
  | hover c => exact checkedPreview_bind_refines hs hS c _
  | unhover => exact .of_ok _ S
  | preview c => exact checkedPreview_bind_refines hs hS c _
  | frame => exact (checkedFrame_refines hs hS).map fun _ => s.lookAround

/-- Changes in 32 bits, one after the other, come to what the changes come to. -/
theorem checkedRun_refines (changes : List Change) :
    (changes.foldlM checkedApply s).Refines (s.run changes) S ∧ (s.run changes).Settled grid :=
  Refines.foldlM (·.Settled grid)
    (fun _ ht change _ => ⟨checkedApply_refines ht hS change, ht.apply change⟩) hs

end

/-- On a grid of moderate size a session never faults. It comes to the state of the plain session,
and its frame is the plain frame. -/
theorem checkedRun_eq (hside : grid.side ≤ 0x10000000) (options : RenderOptions)
    (changes : List Change) :
    changes.foldlM checkedApply (start grid options) = .ok ((start grid options).run changes) ∧
      ((start grid options).run changes).checkedFrame =
        .ok ((start grid options).run changes).frame := by
  obtain ⟨hrun, hsettled⟩ :=
    checkedRun_refines (settled_start grid options) (fun _ : True => hside) changes
  exact ⟨hrun.answers trivial,
    (checkedFrame_refines hsettled fun _ : True => hside).answers trivial⟩

end Session

end Reticle
