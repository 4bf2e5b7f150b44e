import Reticle.Proofs.BoardRuns
import Reticle.Proofs.Fingerprint
import Reticle.Scenario.Memory

/-!
# What is remembered is what would be found

A memo holds what was derived from the board it was last asked about (`Memo.Holds`). Fingerprints
tell obstacles apart and changes stay on one grid, so a memo that is asked again derives anew
exactly when the obstacles are others, and always answers with what the present board gives. The
answers of scenarios are built from such memos; `Recall.Faithful` carries the fact through them.
-/

namespace Reticle

/-! ## Memos -/

namespace Memo

variable {α : Type}

/-- The memo was last asked about a board of this grid with these obstacles, if ever. -/
def Holds (m : Memo α) (derive : Board → α) (grid : Grid) (last : Option CellSet) : Prop :=
  m.entry = last.map fun o => ((Board.mk grid o).fingerprint, derive ⟨grid, o⟩)

/-- A cold memo was never asked. -/
theorem holds_cold (derive : Board → α) (grid : Grid) : (cold : Memo α).Holds derive grid none :=
  rfl

/-- Asking a memo gives what the board gives, derives it exactly when the obstacles are others than
last time, and is remembered. -/
theorem Holds.get {m : Memo α} {derive : Board → α} {board : Board} {last : Option CellSet}
    (h : m.Holds derive board.grid last) :
    (m.get board derive).value = derive board ∧
      (m.get board derive).computed = decide (last ≠ some board.obstacles) ∧
      (m.get board derive).memo.Holds derive board.grid (some board.obstacles) := by
  unfold Holds at h ⊢
  unfold Memo.get
  rw [h]
  cases last with
  | none => exact ⟨rfl, rfl, rfl⟩
  | some o =>
    -- The fingerprint decides whether to derive anew, and tells different obstacles apart.
    by_cases ho : o = board.obstacles
    · have hsame : ((Board.mk board.grid o).fingerprint == board.fingerprint) = true := by
        rw [ho]
        exact beq_self_eq_true _
      simp only [Option.map_some, Option.filter_some, hsame, if_true]
      refine ⟨?_, ?_, ?_⟩
      · rw [ho]
      · simp [ho]
      · rw [h, ho]
        rfl
    · have hother : ((Board.mk board.grid o).fingerprint == board.fingerprint) = false := by
        rw [beq_eq_false_iff_ne]
        exact fun hf => ho (Board.fingerprint_inj.mp hf)
      simp only [Option.map_some, Option.filter_some, hother, Bool.false_eq_true, if_false]
      refine ⟨trivial, ?_, trivial⟩
      simp [ho]

/-- The memo is cold or was asked about some board of the grid. -/
def Sound (m : Memo α) (derive : Board → α) (grid : Grid) : Prop :=
  ∃ last, m.Holds derive grid last

/-- A cold memo is sound. -/
theorem sound_cold (derive : Board → α) (grid : Grid) : (cold : Memo α).Sound derive grid :=
  ⟨none, holds_cold derive grid⟩

/-- A sound memo answers what would be derived anew. -/
theorem Sound.value_get {m : Memo α} {derive : Board → α} {board : Board}
    (h : m.Sound derive board.grid) : (m.get board derive).value = derive board := by
  obtain ⟨last, h⟩ := h
  exact h.get.1

/-- A sound memo stays sound when it is asked. -/
theorem Sound.memo_get {m : Memo α} {derive : Board → α} {board : Board}
    (h : m.Sound derive board.grid) : (m.get board derive).memo.Sound derive board.grid := by
  obtain ⟨last, h⟩ := h
  exact ⟨_, h.get.2.2⟩

end Memo

/-! ## Answers from memory -/

namespace Recall

variable {α β : Type} {P : Memory → Prop}

/-- From every memory with a property comes the same answer, and the property stays. -/
def Faithful (P : Memory → Prop) (m : Recall α) (a : α) : Prop :=
  ∀ memory, P memory → (m memory).1 = a ∧ P (m memory).2

/-- An answer that asks no memo is faithful. -/
theorem Faithful.pure (a : α) : Faithful P (Pure.pure a) a :=
  fun _ h => ⟨rfl, h⟩

/-- Faithful answers one after the other are faithful. -/
theorem Faithful.bind {m : Recall α} {f : α → Recall β} {a : α} {b : β} (hm : Faithful P m a)
    (hf : Faithful P (f a) b) : Faithful P (m >>= f) b := by
  intro memory h
  obtain ⟨ha, hP⟩ := hm memory h
  have hstep : (m >>= f) memory = f a (m memory).2 := by
    rw [← ha]
    rfl
  rw [hstep]
  exact hf _ hP

/-- Faithful answers for each element of a list are faithful. -/
theorem Faithful.mapM {f : α → Recall β} {g : α → β} (h : ∀ x, Faithful P (f x) (g x))
    (xs : List α) : Faithful P (xs.mapM f) (xs.map g) := by
  induction xs with
  | nil =>
    rw [List.mapM_nil]
    exact Faithful.pure _
  | cons x rest ih =>
    rw [List.mapM_cons]
    exact (h x).bind (ih.bind (Faithful.pure _))

/-- Every memory with a property gives one and the same answer, and the property stays. -/
def Steady (P : Memory → Prop) (m : Recall α) : Prop :=
  ∃ a, Faithful P m a

/-- An answer that asks no memo is steady. -/
theorem Steady.pure (a : α) : Steady P (Pure.pure a) :=
  ⟨a, Faithful.pure a⟩

/-- Steady answers one after the other are steady. -/
theorem Steady.bind {m : Recall α} {f : α → Recall β} (hm : Steady P m)
    (hf : ∀ a, Steady P (f a)) : Steady P (m >>= f) := by
  obtain ⟨a, ha⟩ := hm
  obtain ⟨b, hb⟩ := hf a
  exact ⟨b, ha.bind hb⟩

/-- Steady answers for each element of a list are steady. -/
theorem Steady.mapM {f : α → Recall β} (h : ∀ x, Steady P (f x)) (xs : List α) :
    Steady P (xs.mapM f) := by
  exact ⟨xs.map fun x => (h x).choose, Faithful.mapM (fun x => (h x).choose_spec) xs⟩

/-- The answer does not depend on the memory. -/
theorem Steady.eq {m : Recall α} (h : Steady P m) {memory memory' : Memory} (hm : P memory)
    (hm' : P memory') : (m memory).1 = (m memory').1 := by
  obtain ⟨a, ha⟩ := h
  rw [(ha memory hm).1, (ha memory' hm').1]

/-- A steady answer keeps the property of the memory. -/
theorem Steady.keeps {m : Recall α} (h : Steady P m) {memory : Memory} (hm : P memory) :
    P (m memory).2 := by
  obtain ⟨a, ha⟩ := h
  exact (ha memory hm).2

end Recall

namespace Tile

/-- The reach is recalled as it would be computed. -/
theorem faithful_recallReach (t : Tile) (board : Board) :
    Recall.Faithful (fun m => m.reach.Sound t.reach board.grid) (t.recallReach board)
      (t.reach board) :=
  fun _ h => ⟨h.value_get, h.memo_get⟩

/-- The nearest origin is recalled as it would be computed. -/
theorem faithful_recallNearest (t : Tile) (board : Board) (c : Cell) :
    Recall.Faithful (fun m => m.reach.Sound t.reach board.grid) (t.recallNearest board c)
      ((TileSurvey.of t board).nearest? c) := by
  unfold recallNearest TileSurvey.of
  by_cases hi : t.includesArea = true
  · rw [if_pos hi, if_pos hi]
    exact (t.faithful_recallReach board).bind (Recall.Faithful.pure _)
  · rw [if_neg hi, if_neg hi]
    exact Recall.Faithful.pure _

/-- The targets of a tile scenario are recalled as they would be computed. -/
theorem faithful_recallTargetable (t : Tile) (board : Board) (c : Cell) :
    Recall.Faithful (fun m => m.reach.Sound t.reach board.grid) (t.recallTargetable board c)
      ((TileSurvey.of t board).isTargetable c) := by
  have htarget : (TileSurvey.of t board).isTargetable c =
      (t.isOrigin board c || ((TileSurvey.of t board).nearest? c).isSome) := rfl
  unfold recallTargetable
  rw [htarget]
  by_cases ho : t.isOrigin board c = true
  · rw [if_pos ho, ho, Bool.true_or]
    exact Recall.Faithful.pure _
  · rw [if_neg ho, Bool.eq_false_iff.mpr ho, Bool.false_or]
    exact (t.faithful_recallNearest board c).bind (Recall.Faithful.pure _)

/-- The areas of a tile scenario are recalled as they would be computed. -/
theorem faithful_recallArea (t : Tile) (board : Board) (c : Cell) :
    Recall.Faithful (fun m => m.reach.Sound t.reach board.grid) (t.recallArea board c)
      ((TileSurvey.of t board).areaCells c) := by
  have harea : (TileSurvey.of t board).areaCells c =
      if t.isOrigin board c then t.areaFrom c
      else (((TileSurvey.of t board).nearest? c).map (·.2)).getD [] := rfl
  unfold recallArea
  rw [harea]
  by_cases ho : t.isOrigin board c = true
  · rw [if_pos ho, if_pos ho]
    exact Recall.Faithful.pure _
  · rw [if_neg ho, if_neg ho]
    exact (t.faithful_recallNearest board c).bind (Recall.Faithful.pure _)

end Tile

namespace Dash

/-- The lanes of a dash are recalled as they would be computed. -/
theorem faithful_recallLanes (s : Dash) (board : Board) :
    Recall.Faithful (fun m => m.lanes.Sound s.lanes board.grid) (s.recallLanes board)
      (s.lanes board) :=
  fun _ h => ⟨h.value_get, h.memo_get⟩

/-- The targets of a dash are recalled as they would be computed. -/
theorem faithful_recallTargetable (s : Dash) (board : Board) (c : Cell) :
    Recall.Faithful (fun m => m.lanes.Sound s.lanes board.grid) (s.recallTargetable board c)
      ((DashSurvey.of s board).isTargetable c) :=
  (s.faithful_recallLanes board).bind (Recall.Faithful.pure _)

/-- The areas of a dash are recalled as they would be computed. -/
theorem faithful_recallArea (s : Dash) (board : Board) (c : Cell) :
    Recall.Faithful (fun m => m.lanes.Sound s.lanes board.grid) (s.recallArea board c)
      ((DashSurvey.of s board).areaCells c) :=
  (s.faithful_recallLanes board).bind (Recall.Faithful.pure _)

end Dash

namespace Scenario

/-- What a scenario remembers was derived from boards of a grid. -/
def Trusts (s : Scenario) (grid : Grid) (memory : Memory) : Prop :=
  match s with
  | tile t => memory.reach.Sound t.reach grid
  | dash s => memory.lanes.Sound s.lanes grid
  | selfCast _ | directional _ => True

/-- A scenario may trust a cold memory. -/
theorem trusts_cold (s : Scenario) (grid : Grid) : s.Trusts grid Memory.cold := by
  cases s with
  | selfCast s => trivial
  | tile t => exact Memo.sound_cold _ _
  | directional s => trivial
  | dash s => exact Memo.sound_cold _ _

/-- Whether a cell is targetable is told from memory as from a survey of the present board. -/
theorem faithful_recallTargetable (s : Scenario) (board : Board) (c : Cell) :
    Recall.Faithful (s.Trusts board.grid) ((s.outlook board).recallTargetable c)
      (s.isTargetable board c) := by
  cases s with
  | selfCast s => exact Recall.Faithful.pure _
  | tile t => exact t.faithful_recallTargetable board c
  | directional s => exact Recall.Faithful.pure _
  | dash s => exact s.faithful_recallTargetable board c

/-- So are the affected cells. -/
theorem faithful_recallArea (s : Scenario) (board : Board) (c : Cell) :
    Recall.Faithful (s.Trusts board.grid) ((s.outlook board).recallArea c)
      (s.areaCells board c) := by
  cases s with
  | selfCast s => exact Recall.Faithful.pure _
  | tile t => exact t.faithful_recallArea board c
  | directional s => exact Recall.Faithful.pure _
  | dash s => exact s.faithful_recallArea board c

end Scenario

/-! ## Questions between changes -/

namespace Board

/-- A change of the board, or a question about it. -/
inductive Event (ι : Type)
  | change (change : Change)
  | ask (question : ι)

/-- The answers to the questions among events. Whoever answers may keep a state from one question
to the next. -/
def answers {σ ι ω : Type} (answer : σ → Board → ι → ω × σ) :
    σ → Board → List (Event ι) → List ω
  | _, _, [] => []
  | s, b, .change change :: rest => answers answer s (b.apply change) rest
  | s, b, .ask question :: rest =>
    (answer s b question).1 :: answers answer (answer s b question).2 b rest

/-- Answers agree when one state follows the other through every question. -/
theorem answers_eq_of_simulation {σ τ ι ω : Type} {answer : σ → Board → ι → ω × σ}
    {answer' : τ → Board → ι → ω × τ} {R : Grid → σ → τ → Prop}
    (hstep : ∀ b s t q, R b.grid s t → (answer s b q).1 = (answer' t b q).1 ∧
      R b.grid (answer s b q).2 (answer' t b q).2)
    {b : Board} {s : σ} {t : τ} (h : R b.grid s t) (events : List (Event ι)) :
    answers answer s b events = answers answer' t b events := by
  induction events generalizing b s t with
  | nil => rfl
  | cons event rest ih =>
    cases event with
    | change change => exact ih ((grid_apply b change).symm ▸ h)
    | ask q =>
      obtain ⟨hval, hnext⟩ := hstep b s t q h
      rw [answers, answers, hval, ih hnext]

end Board

/-- A question about one cell of a board. -/
inductive Question
  | targetable (c : Cell)
  | area (c : Cell)

/-- An answer to such a question. -/
inductive Reply
  | targetable (holds : Bool)
  | area (cells : List Cell)
deriving DecidableEq

/-- The reply of a scenario, from memory. -/
def Scenario.recallReply (s : Scenario) (board : Board) : Question → Recall Reply
  | .targetable c => return .targetable (← (s.outlook board).recallTargetable c)
  | .area c => return .area (← (s.outlook board).recallArea c)

/-- The reply of a scenario from a survey of the board. -/
def Scenario.reply (s : Scenario) (board : Board) : Question → Reply
  | .targetable c => .targetable (s.isTargetable board c)
  | .area c => .area (s.areaCells board c)

/-- Every question to a scenario is answered as from a cold memory. -/
theorem Scenario.faithful_recallReply (s : Scenario) (board : Board) (q : Question) :
    Recall.Faithful (s.Trusts board.grid) (s.recallReply board q) (s.reply board q) := by
  cases q with
  | targetable c => exact (s.faithful_recallTargetable board c).bind (Recall.Faithful.pure _)
  | area c => exact (s.faithful_recallArea board c).bind (Recall.Faithful.pure _)

/-! ## Nothing is noticed of the memory -/

namespace Memo

variable {α : Type}

/-- What a memo gives for a board, and whether it derives it. -/
def reply (derive : Board → α) (m : Memo α) (board : Board) (_ : Unit) : (α × Bool) × Memo α :=
  let answer := m.get board derive
  ((answer.value, answer.computed), answer.memo)

/-- What is to be given for a board when the last question was about these obstacles: the value for
this board, which is derived unless the obstacles are the same. -/
def expectedReply (derive : Board → α) (last : Option CellSet) (board : Board) (_ : Unit) :
    (α × Bool) × Option CellSet :=
  ((derive board, decide (last ≠ some board.obstacles)), some board.obstacles)

/-- A memo that is asked between changes of the board derives when it has to and only then, and
always answers what the board at hand gives. -/
theorem answers_reply (derive : Board → α) (start : Board) (events : List (Board.Event Unit)) :
    Board.answers (reply derive) cold start events =
      Board.answers (expectedReply derive) none start events := by
  refine Board.answers_eq_of_simulation (R := fun grid m last => Holds m derive grid last) ?_
    (holds_cold derive start.grid) events
  intro b m last q h
  obtain ⟨hvalue, hcomputed, hholds⟩ := h.get
  refine ⟨?_, hholds⟩
  show ((m.get b derive).value, (m.get b derive).computed) = _
  rw [hvalue, hcomputed]
  rfl

end Memo

/-- Over any run of changes and questions the answers are those of a scenario without memory. -/
theorem Scenario.answers_recallReply (s : Scenario) (start : Board)
    (events : List (Board.Event Question)) :
    Board.answers (fun memory b q => s.recallReply b q memory) Memory.cold start events =
      Board.answers (fun _ b q => (s.reply b q, ())) () start events := by
  refine Board.answers_eq_of_simulation (R := fun grid memory _ => s.Trusts grid memory) ?_
    (s.trusts_cold start.grid) events
  intro b memory _ q h
  exact s.faithful_recallReply b q memory h

/-- Nothing is noticed of what is remembered between changes of a board. Fingerprints are equal
exactly for equal obstacles. A memo answers every question with the value for the board as it then
is, and derives it exactly when there was no question before or the obstacles are others than at
the question before. A scenario that remembers answers every question as one that remembers
nothing does on the board as it then is. -/
theorem memory_invisible {α : Type} (derive : Board → α) (s : Scenario) (start : Board)
    (events : List (Board.Event Unit)) (questions : List (Board.Event Question)) :
    (∀ b b' : Board, b.fingerprint = b'.fingerprint ↔ b.obstacles = b'.obstacles) ∧
    Board.answers (Memo.reply derive) Memo.cold start events =
      Board.answers (Memo.expectedReply derive) none start events ∧
    Board.answers (fun memory b q => s.recallReply b q memory) Memory.cold start questions =
      Board.answers (fun _ b q => ((s.recallReply b q Memory.cold).1, ())) () start questions := by
  refine ⟨fun b b' => Board.fingerprint_inj, Memo.answers_reply derive start events, ?_⟩
  have hcold : (fun (_ : Unit) b q => ((s.recallReply b q Memory.cold).1, ())) =
      fun (_ : Unit) b q => (s.reply b q, ()) := by
    funext _ b q
    rw [(s.faithful_recallReply b q Memory.cold (s.trusts_cold b.grid)).1]
  rw [hcold]
  exact s.answers_recallReply start questions

end Reticle
