import Reticle.Proofs.Lines

/-!
# The lines of a rule text

A line either continues the value of the field before it, whose brackets are open, or it says by
itself what it is: a gap between fields, a field, or nothing of this. `readLine_eq` says what reading
does with each, and everything else about reading lines follows from it. Whether brackets are open is
seen on the fields: what the reader counts are the brackets of the value (`Progress.Tracks`).
-/

namespace Reticle.Rule

/-! ## What a line says -/

/-- What a line says where it does not continue a value. -/
inductive LineSense
  /-- It is blank or belongs to the frame. -/
  | gap
  /-- It has a key, a space and the start of a value. -/
  | field (key : String) (value : List Char)
  | malformed
deriving DecidableEq

/-- What a line says; blanks at its ends do not count. -/
def lineSense (line : List Char) : LineSense :=
  let text := Text.trim line
  if text.isEmpty || frameLines.contains (.ofList text) then .gap
  else
    match Text.cutAt ' ' text with
    | some (key, rest) => .field (.ofList (Text.trim key)) (Text.trim rest)
    | none => .malformed

/-- How many brackets are open after the line of a key. -/
def openDepth (key : String) (value : List Char) : Int :=
  if key == multilineKey && value.head? == some '[' then bracketDepth value else 0

/-- A value with one more line. -/
def continued (text : String) (line : List Char) : String :=
  text ++ " " ++ .ofList (Text.trim line)

/-- A line continues a value that is still open; otherwise it is a field, a gap or malformed by
itself. -/
theorem Progress.readLine_eq (p : Progress) (number : Nat) (line : List Char) :
    p.readLine number line =
      match p.pending with
      | some (f, depth) =>
        p.take { f with text := continued f.text line } (depth + bracketDepth (Text.trim line))
      | none =>
        match lineSense line with
        | .gap => p
        | .field key value => p.take ⟨key, number, .ofList value⟩ (openDepth key value)
        | .malformed => { p with firstMalformed := p.firstMalformed <|> some number } := by
  unfold readLine lineSense
  cases p.pending with
  | some entry => rfl
  | none =>
    dsimp only
    split
    · rfl
    · cases Text.cutAt ' ' (Text.trim line) <;> rfl

/-- A gap between fields changes nothing. -/
theorem Progress.readLine_of_gap {p : Progress} (hp : p.pending = none) {line : List Char}
    (h : lineSense line = .gap) (number : Nat) : p.readLine number line = p := by
  rw [readLine_eq]
  simp only [hp, h]

/-- A line with a field starts that field. -/
theorem Progress.readLine_of_field {p : Progress} (hp : p.pending = none) {line : List Char}
    {key : String} {value : List Char} (h : lineSense line = .field key value) (number : Nat) :
    p.readLine number line = p.take ⟨key, number, .ofList value⟩ (openDepth key value) := by
  rw [readLine_eq]
  simp only [hp, h]

/-! ## Walks over lines -/

/-- Lines are read one after the other and counted. -/
theorem readLines_cons (p : Progress) (number : Nat) (line : List Char) (lines : List (List Char)) :
    readLines p number (line :: lines) = readLines (p.readLine number line) (number + 1) lines :=
  rfl

/-- Lines may be read in two parts, the count going on. -/
theorem readLines_append (p : Progress) (number : Nat) (lines others : List (List Char)) :
    readLines p number (lines ++ others) =
      readLines (readLines p number lines) (number + lines.length) others := by
  unfold readLines
  rw [List.zipIdx_append, List.foldl_append]

/-- The lines of a text between its line feeds. A carriage return before a line feed is a blank at
the end of a line. -/
def rawLines (text : String) : List (List Char) :=
  Text.splitOn '\n' text.toList

/-- The lines that are read differ from those of the text in blanks at their ends only. -/
theorem textLines_sameUpToEnd (text : String) :
    List.Forall₂ Text.SameUpToEnd (textLines text) (rawLines text) :=
  Text.splitOn_unixLines _

/-- A rule keeps all lines of its text. -/
theorem length_lines_ofText (text : String) :
    (ofText text).lines.length = (rawLines text).length := by
  unfold ofText
  rw [List.length_map, (textLines_sameUpToEnd text).length_eq]

/-- The fields of a text are those that its lines come to. -/
theorem fields_ofText (text : String) :
    (ofText text).fields = (readLines .start 0 (rawLines text)).allFields := by
  rw [← readLines_congr (textLines_sameUpToEnd text)]
  rfl

/-- The first malformed line of a text is the first among its lines. -/
theorem firstMalformed_ofText (text : String) :
    (ofText text).firstMalformed = (readLines .start 0 (rawLines text)).firstMalformed := by
  rw [← readLines_congr (textLines_sameUpToEnd text)]
  rfl

/-! ## Open brackets -/

/-- Brackets may be counted in parts. -/
theorem bracketDepth_append (text more : List Char) :
    bracketDepth (text ++ more) = bracketDepth text + bracketDepth more := by
  unfold bracketDepth
  rw [List.count_append, List.count_append]
  omega

/-- Without brackets the depth is zero. -/
theorem bracketDepth_of_not_bracket {text : List Char} (h : ∀ c ∈ text, c ≠ '[' ∧ c ≠ ']') :
    bracketDepth text = 0 := by
  unfold bracketDepth
  rw [List.count_eq_zero.2 fun hmem => (h _ hmem).1 rfl,
    List.count_eq_zero.2 fun hmem => (h _ hmem).2 rfl]
  rfl

/-- Blanks do not count as brackets. -/
theorem bracketDepth_of_blank {text : List Char} (h : ∀ c ∈ text, Text.isBlank c = true) :
    bracketDepth text = 0 := by
  apply bracketDepth_of_not_bracket
  intro c hc
  constructor <;> rintro rfl <;> exact absurd (h _ hc) (by decide)

/-- Blanks at the ends of a line are no brackets. -/
theorem bracketDepth_trim (line : List Char) : bracketDepth (Text.trim line) = bracketDepth line := by
  have hcons : ∀ c (text : List Char), Text.isBlank c = true →
      bracketDepth (c :: text) = bracketDepth text := by
    intro c text hc
    rw [← List.singleton_append, bracketDepth_append,
      bracketDepth_of_blank fun d hd => List.mem_singleton.1 hd ▸ hc, Int.zero_add]
  have hstart : ∀ text, bracketDepth (Text.trimStart text) = bracketDepth text := by
    intro text
    unfold Text.trimStart
    induction text with
    | nil => rfl
    | cons c text ih =>
      rw [List.dropWhile_cons]
      split
      · next hc => rw [ih, hcons c text hc]
      · rfl
  have hend : ∀ text, bracketDepth (Text.trimEnd text) = bracketDepth text := by
    intro text
    induction text with
    | nil => rfl
    | cons c text ih =>
      rw [Text.trimEnd_cons]
      split
      · next hblank => rw [hcons c text hblank.2, ← ih, hblank.1]
      · rw [← List.singleton_append, bracketDepth_append, ih, ← bracketDepth_append]
        rfl
  unfold Text.trim
  rw [hend, hstart]

/-- A line is added to a value behind one space, without the blanks at its ends. -/
theorem toList_continued (text : String) (line : List Char) :
    (continued text line).toList = text.toList ++ ([' '] ++ Text.trim line) := by
  simp [continued]

/-- The lines of a value are joined by spaces. -/
theorem toList_foldl_continued (text : String) (lines : List (List Char)) :
    (lines.foldl continued text).toList = Text.joinWith ' ' (text.toList :: lines.map Text.trim) := by
  induction lines generalizing text with
  | nil => rfl
  | cons line lines ih =>
    rw [List.foldl_cons, ih, toList_continued]
    cases lines with
    | nil => rfl
    | cons next more =>
      show (text.toList ++ ([' '] ++ Text.trim line)) ++ ' ' :: _ = _
      rw [List.append_assoc, List.append_assoc]
      rfl

/-- Continuing a value adds the brackets of the line. -/
theorem bracketDepth_continued (text : String) (line : List Char) :
    bracketDepth (continued text line).toList =
      bracketDepth text.toList + bracketDepth (Text.trim line) := by
  have hspace : bracketDepth [' '] = 0 := by decide
  rw [toList_continued, bracketDepth_append, bracketDepth_append, hspace, Int.zero_add]

end Rule

/-- The value of a field goes on over lines and has brackets that are still open. -/
def Field.isOpen (f : Field) : Bool :=
  f.key == Rule.multilineKey && f.text.toList.head? == some '[' &&
    decide (0 < Rule.bracketDepth f.text.toList)

namespace Rule

/-- A field is open when more brackets are opened on its line than closed. -/
theorem isOpen_field (key : String) (number : Nat) (value : List Char) :
    (Field.mk key number (.ofList value)).isOpen = decide (0 < openDepth key value) := by
  unfold Field.isOpen openDepth
  rw [String.toList_ofList]
  split
  · next hmulti => rw [hmulti, Bool.true_and]
  · next hmulti =>
    rw [Bool.eq_false_iff.2 hmulti]
    rfl

/-- What keeps a field open is the bracket depth of its value. -/
theorem openDepth_eq {key : String} {value : List Char} (h : 0 < openDepth key value) :
    openDepth key value = bracketDepth value := by
  unfold openDepth at h ⊢
  split
  · rfl
  · next hmulti =>
    rw [if_neg hmulti] at h
    exact absurd h (Int.lt_irrefl 0)

/-- An open field stays open until its brackets are closed. -/
theorem isOpen_continued {f : Field} (h : f.isOpen = true) (line : List Char) :
    Field.isOpen { f with text := continued f.text line } =
      decide (0 < bracketDepth f.text.toList + bracketDepth (Text.trim line)) := by
  unfold Field.isOpen at h ⊢
  simp only [Bool.and_eq_true] at h
  obtain ⟨⟨hkey, hhead⟩, -⟩ := h
  have hstart : ((continued f.text line).toList.head? == some '[') = true := by
    rw [toList_continued, List.head?_append, beq_iff_eq.1 hhead]
    rfl
  rw [hkey, hstart, bracketDepth_continued, Bool.and_self, Bool.true_and]

namespace Progress

/-- Complete fields are closed, and the pending field is open by as many brackets as counted. -/
structure Tracks (p : Progress) : Prop where
  closed : ∀ f ∈ p.fields, f.isOpen = false
  pending : ∀ f depth, p.pending = some (f, depth) →
    f.isOpen = true ∧ depth = bracketDepth f.text.toList

/-- At the start there is nothing to track. -/
theorem tracks_start : start.Tracks :=
  ⟨fun _ h => absurd h List.not_mem_nil, fun _ _ h => by cases h⟩

/-- Taking a field, open or complete, keeps track. -/
theorem Tracks.take {p : Progress} (h : p.Tracks) {f : Field} {depth : Int}
    (hopen : f.isOpen = decide (0 < depth))
    (hdepth : 0 < depth → depth = bracketDepth f.text.toList) : (p.take f depth).Tracks := by
  unfold Progress.take
  by_cases hpos : 0 < depth
  · rw [if_pos hpos]
    refine ⟨h.closed, ?_⟩
    rintro _ _ ⟨⟩
    exact ⟨hopen.trans (decide_eq_true hpos), hdepth hpos⟩
  · rw [if_neg hpos]
    refine ⟨fun g hg => ?_, fun g d hg => by cases hg⟩
    rcases List.mem_append.1 hg with hg | hg
    · exact h.closed g hg
    · rw [List.mem_singleton.1 hg, hopen, decide_eq_false hpos]

/-- Reading a line keeps track. -/
theorem Tracks.readLine {p : Progress} (h : p.Tracks) (number : Nat) (line : List Char) :
    (p.readLine number line).Tracks := by
  rw [readLine_eq]
  cases hpending : p.pending with
  | some entry =>
    obtain ⟨f, depth⟩ := entry
    obtain ⟨hopen, rfl⟩ := h.pending f depth hpending
    exact h.take (isOpen_continued hopen line) fun _ => (bracketDepth_continued f.text line).symm
  | none =>
    cases lineSense line with
    | gap => exact h
    | malformed => exact ⟨h.closed, fun f depth hf => h.pending f depth (hpending.symm ▸ hf)⟩
    | field key value =>
      apply h.take (isOpen_field key number value)
      intro hpos
      rw [openDepth_eq hpos, String.toList_ofList]

/-- Reading lines keeps track of the brackets to the end. -/
theorem Tracks.readLines {p : Progress} (h : p.Tracks) (number : Nat) (lines : List (List Char)) :
    (readLines p number lines).Tracks := by
  induction lines generalizing p number with
  | nil => exact h
  | cons line rest ih => exact ih (h.readLine number line) (number + 1)

/-- Nothing is pending exactly when all fields are closed. -/
theorem Tracks.pending_eq_none_iff {p : Progress} (h : p.Tracks) :
    p.pending = none ↔ ∀ f ∈ p.allFields, f.isOpen = false := by
  unfold allFields
  constructor
  · intro hnone f hf
    rw [hnone] at hf
    exact h.closed f (by simpa using hf)
  · intro hclosed
    cases hpending : p.pending with
    | none => rfl
    | some entry =>
      obtain ⟨f, depth⟩ := entry
      have hf : f.isOpen = false := hclosed f (by simp [hpending])
      rw [(h.pending f depth hpending).1] at hf
      cases hf

end Progress

end Reticle.Rule
