import Reticle.Scenario.Memory
import Reticle.Session.Basic

/-!
# Looking twice

A memo that was asked about a board is about that board, and asking it again leaves it as it is. All
questions that a scenario is asked about one board renew the same memo, so `Recall.Renews` carries
this through them: they leave a memory alone that is already about the board, and bring any other
there or do not touch it. Looking at a cell once more changes nothing (`Session.hover_hover`).
-/

namespace Reticle

namespace Memo

variable {α : Type}

/-- The remembered value is for a board. -/
def IsAbout (m : Memo α) (board : Board) : Prop :=
  ∃ value, m.entry = some (board.fingerprint, value)

/-- What is remembered of a board is not derived again. -/
theorem memo_get_of_isAbout {m : Memo α} {board : Board} (h : m.IsAbout board)
    (derive : Board → α) : (m.get board derive).memo = m := by
  obtain ⟨value, hentry⟩ := h
  unfold get
  rw [hentry, Option.filter_some, if_pos (beq_self_eq_true _)]

/-- After a question the memo is about the board of the question. -/
theorem isAbout_memo_get (m : Memo α) (board : Board) (derive : Board → α) :
    (m.get board derive).memo.IsAbout board := by
  unfold get
  cases hentry : m.entry.filter (·.1 == board.fingerprint) with
  | none => exact ⟨derive board, rfl⟩
  | some entry =>
    obtain ⟨hsome, hkey⟩ := Option.filter_eq_some_iff.1 hentry
    exact ⟨entry.2, hsome.trans (by rw [← eq_of_beq hkey])⟩

end Memo

namespace Recall

variable {α β : Type} {P : Memory → Prop}

/-- Memories with a property are left as they are, and others are too or get the property. -/
def Renews (P : Memory → Prop) (m : Recall α) : Prop :=
  ∀ memory, (P memory → (m memory).2 = memory) ∧ ((m memory).2 = memory ∨ P (m memory).2)

/-- An answer that asks nothing renews what is renewed already. -/
theorem Renews.pure (a : α) : Renews P (Pure.pure a : Recall α) :=
  fun _ => ⟨fun _ => rfl, .inl rfl⟩

/-- Questions one after the other renew the same memo. -/
theorem Renews.bind {m : Recall α} {f : α → Recall β} (hm : Renews P m)
    (hf : ∀ a, Renews P (f a)) : Renews P (m >>= f) := by
  intro memory
  obtain ⟨hkeep, hleave⟩ := hm memory
  obtain ⟨hkeep', hleave'⟩ := hf (m memory).1 (m memory).2
  have hstep : ((m >>= f) memory).2 = (f (m memory).1 (m memory).2).2 := rfl
  rw [hstep]
  constructor
  · intro hP
    have hsame := hkeep hP
    exact (hkeep' (hsame.symm ▸ hP)).trans hsame
  · rcases hleave with hsame | hP
    · exact hleave'.imp_left (·.trans hsame)
    · exact .inr ((hkeep' hP).symm ▸ hP)

/-- The second time, nothing is left to renew. -/
theorem Renews.again {m : Recall α} (h : Renews P m) (memory : Memory) :
    (m (m memory).2).2 = (m memory).2 := by
  rcases (h memory).2 with hsame | hP
  · rw [hsame, hsame]
  · exact (h _).1 hP

end Recall

namespace Tile

/-- Asking for the reach renews the reach. -/
theorem renews_recallReach (t : Tile) (board : Board) :
    Recall.Renews (·.reach.IsAbout board) (t.recallReach board) := by
  intro memory
  refine ⟨fun h => ?_, .inr (memory.reach.isAbout_memo_get board t.reach)⟩
  have hmemo := Memo.memo_get_of_isAbout h t.reach
  show { memory with reach := (memory.reach.get board t.reach).memo } = memory
  rw [hmemo]

/-- Asking for the nearest origin renews the reach. -/
theorem renews_recallNearest (t : Tile) (board : Board) (c : Cell) :
    Recall.Renews (·.reach.IsAbout board) (t.recallNearest board c) := by
  unfold recallNearest
  split
  · exact (t.renews_recallReach board).bind fun cells => .pure _
  · exact .pure _

/-- Asking a tile scenario for a target renews its reach. -/
theorem renews_recallTargetable (t : Tile) (board : Board) (c : Cell) :
    Recall.Renews (·.reach.IsAbout board) (t.recallTargetable board c) := by
  unfold recallTargetable
  split
  · exact .pure _
  · exact (t.renews_recallNearest board c).bind fun origin => .pure _

/-- Asking a tile scenario for an area renews its reach. -/
theorem renews_recallArea (t : Tile) (board : Board) (c : Cell) :
    Recall.Renews (·.reach.IsAbout board) (t.recallArea board c) := by
  unfold recallArea
  split
  · exact .pure _
  · exact (t.renews_recallNearest board c).bind fun origin => .pure _

end Tile

/-- Asking a dash for its lanes renews the lanes. -/
theorem Dash.renews_recallLanes (s : Dash) (board : Board) :
    Recall.Renews (·.lanes.IsAbout board) (s.recallLanes board) := by
  intro memory
  refine ⟨fun h => ?_, .inr (memory.lanes.isAbout_memo_get board s.lanes)⟩
  have hmemo := Memo.memo_get_of_isAbout h s.lanes
  show { memory with lanes := (memory.lanes.get board s.lanes).memo } = memory
  rw [hmemo]

namespace Scenario

/-- What a scenario remembers is about a board. -/
def IsAbout (s : Scenario) (board : Board) (memory : Memory) : Prop :=
  match s with
  | tile _ => memory.reach.IsAbout board
  | dash _ => memory.lanes.IsAbout board
  | selfCast _ | directional _ => True

/-- Asking for a target renews what the scenario remembers, if anything. -/
theorem renews_recallTargetable (s : Scenario) (board : Board) (c : Cell) :
    Recall.Renews (s.IsAbout board) ((s.outlook board).recallTargetable c) := by
  cases s with
  | selfCast s => exact .pure _
  | tile t => exact t.renews_recallTargetable board c
  | directional s => exact .pure _
  | dash s => exact (s.renews_recallLanes board).bind fun lanes => .pure _

/-- Asking for an area renews what the scenario remembers, if anything. -/
theorem renews_recallArea (s : Scenario) (board : Board) (c : Cell) :
    Recall.Renews (s.IsAbout board) ((s.outlook board).recallArea c) := by
  cases s with
  | selfCast s => exact .pure _
  | tile t => exact t.renews_recallArea board c
  | directional s => exact .pure _
  | dash s => exact (s.renews_recallLanes board).bind fun lanes => .pure _

/-- Asking for a preview renews what the scenario remembers, if anything. -/
theorem renews_recallPreview (s : Scenario) (board : Board) (c : Cell) :
    Recall.Renews (s.IsAbout board) ((s.outlook board).recallPreview c) := by
  unfold Outlook.recallPreview
  refine (s.renews_recallTargetable board c).bind fun holds => ?_
  split
  · exact (s.renews_recallArea board c).bind fun cells => .pure _
  · exact .pure _

end Scenario

namespace Session

/-- Looking at a cell again changes nothing that is remembered. -/
theorem recallPreview_again (s : Session) (c : Cell) (memory : Memory) :
    (s.recallPreview c (s.recallPreview c memory).2).2 = (s.recallPreview c memory).2 := by
  unfold recallPreview
  cases s.rendered? with
  | none => rfl
  | some rendered => exact (rendered.scenario.renews_recallPreview s.board c).again memory

/-- Hovering over the hovered cell changes nothing, not even what is remembered. -/
theorem hover_hover (s : Session) (c : Cell) : (s.hover c).hover c = s.hover c := by
  have hagain := { s with hovered := some c }.recallPreview_again c s.memory
  exact congrArg (fun memory => { s with hovered := some c, memory }) hagain

end Session

end Reticle
