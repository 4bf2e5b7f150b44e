import Mathlib.Data.List.DropRight
import Mathlib.Data.List.Forall2
import Reticle.Rule.Reader

/-!
# Line ends

A session keeps its rule text with the line ends it gave it, and rendering gives a text those line
ends once more. Doing so twice is not the same as doing so once, since a carriage return can stand
before another. But a carriage return at the end of a line is a blank there, and lines are read
without the blanks at their ends: the fields of a rule are the same.
-/

namespace Reticle

namespace Text

/-! ## Trimming -/

/-- The first character goes only if it is blank and nothing but blanks follows. -/
theorem trimEnd_cons (c : Char) (text : List Char) :
    trimEnd (c :: text) = if trimEnd text = [] ∧ isBlank c = true then [] else c :: trimEnd text := by
  unfold trimEnd
  rw [List.reverse_cons, List.dropWhile_append]
  by_cases hnil : text.reverse.dropWhile isBlank = []
  · cases hc : isBlank c <;> simp [hnil, hc]
  · simp [hnil]

/-- It does not matter at which end the blanks go first. -/
theorem trim_eq_trimStart_trimEnd (text : List Char) : trim text = trimStart (trimEnd text) := by
  unfold trim
  induction text with
  | nil => rfl
  | cons c rest ih =>
    rw [trimEnd_cons]
    cases hc : isBlank c with
    | true =>
      have hstart : trimStart (c :: rest) = trimStart rest := by simp [trimStart, hc]
      rw [hstart, ih]
      by_cases hnil : trimEnd rest = []
      · simp [hnil]
      · simp [hnil, trimStart, hc]
    | false =>
      have hstart : trimStart (c :: rest) = c :: rest := by simp [trimStart, hc]
      rw [hstart, trimEnd_cons, hc]
      simp [trimStart, hc]

/-- Blanks at the end are those of the last part that has anything else. -/
theorem trimEnd_append {text more : List Char} (h : trimEnd more ≠ []) :
    trimEnd (text ++ more) = text ++ trimEnd more := by
  induction text with
  | nil => rfl
  | cons c text ih =>
    rw [List.cons_append, trimEnd_cons, ih, if_neg]
    · rfl
    · simp [h]

/-- Nothing is trimmed in front of a character that is not blank. -/
theorem trim_cons {c : Char} (hc : isBlank c = false) (text : List Char) :
    trim (c :: text) = c :: trimEnd text := by
  unfold trim trimStart
  rw [List.dropWhile_cons_of_neg (by simp [hc]), trimEnd_cons, if_neg]
  simp [hc]

/-- Of blanks nothing is left. -/
theorem trim_of_blank {text : List Char} (h : ∀ c ∈ text, isBlank c = true) : trim text = [] := by
  have hstart : trimStart text = [] := List.dropWhile_eq_nil_iff.2 h
  unfold trim
  rw [hstart]
  rfl

/-- Trimming both ends leaves no more than trimming one. -/
theorem mem_trimEnd_of_mem_trim {text : List Char} {c : Char} (h : c ∈ trim text) :
    c ∈ trimEnd text := by
  rw [trim_eq_trimStart_trimEnd] at h
  exact (List.dropWhile_sublist _).subset h

/-- The blanks at the end do not matter to trimming. -/
theorem trim_congr {text text' : List Char} (h : trimEnd text = trimEnd text') :
    trim text = trim text' := by
  rw [trim_eq_trimStart_trimEnd, h, ← trim_eq_trimStart_trimEnd]

/-- The end is trimmed once and for all. -/
theorem trimEnd_trimEnd (text : List Char) : trimEnd (trimEnd text) = trimEnd text := by
  unfold trimEnd
  rw [List.reverse_reverse, List.dropWhile_idempotent]

/-- Both ends are trimmed once and for all. -/
theorem trim_trim (text : List Char) : trim (trim text) = trim text := by
  have hend : trimEnd (trim text) = trim text := trimEnd_trimEnd _
  have hstart : trimStart (trim text) = trim text := by
    rw [trim_eq_trimStart_trimEnd]
    unfold trimStart
    rw [List.dropWhile_idempotent]
  rw [trim_eq_trimStart_trimEnd (trim text), hend, hstart]

/-- So it is for strings. -/
theorem trimmed_trimmed (s : String) : trimmed (trimmed s) = trimmed s := by
  unfold trimmed
  rw [String.toList_ofList, trim_trim]

/-! ## Carriage returns at line ends -/

/-- Line ends do not make a blank text anything else. -/
theorem all_isBlank_unixLines (text : List Char) :
    (unixLines text).all isBlank = text.all isBlank := by
  fun_induction unixLines text with
  | case1 => rfl
  | case2 rest ih =>
    have hr : isBlank '\r' = true := by decide
    simp [ih, hr]
  | case3 c rest _ ih => simp [ih]

/-- Two lines differ at most in the blanks at their ends. -/
def SameUpToEnd (line line' : List Char) : Prop :=
  trimEnd line = trimEnd line'

/-- Lines that differ in the blanks at their ends do so behind a common character. -/
theorem SameUpToEnd.cons {line line' : List Char} (h : SameUpToEnd line line') (c : Char) :
    SameUpToEnd (c :: line) (c :: line') := by
  unfold SameUpToEnd at *
  rw [trimEnd_cons, trimEnd_cons, h]

/-- The first piece grows by a character that does not cut. -/
theorem pieces_cons_of_not_cuts (cuts : Char → Bool) {c : Char} (h : cuts c = false)
    (text : List Char) :
    ∃ piece others, pieces cuts text = piece :: others ∧
      pieces cuts (c :: text) = (c :: piece) :: others := by
  match hp : pieces cuts text with
  | [] => exact absurd hp (pieces_ne_nil cuts text)
  | piece :: others => exact ⟨piece, others, rfl, by simp [pieces, h, hp]⟩

/-- There is one piece more than there are marks. -/
theorem length_splitOn (mark : Char) (text : List Char) :
    (splitOn mark text).length = text.count mark + 1 := by
  induction text with
  | nil => rfl
  | cons c text ih =>
    by_cases hc : c = mark
    · subst hc
      rw [List.count_cons_self, ← ih]
      simp [splitOn, pieces]
    · obtain ⟨piece, others, hpieces, hgrown⟩ :=
        pieces_cons_of_not_cuts (· == mark) (beq_eq_false_iff_ne.2 hc) text
      rw [splitOn, hpieces] at ih
      rw [splitOn, hgrown, List.count_cons_of_ne hc, ← ih]
      rfl

/-- Line by line, line ends of two characters differ in a blank at the end only. -/
theorem splitOn_unixLines (text : List Char) :
    List.Forall₂ SameUpToEnd (splitOn '\n' (unixLines text)) (splitOn '\n' text) := by
  unfold splitOn
  fun_induction unixLines text with
  | case1 => exact .cons rfl .nil
  | case2 rest ih =>
    have hleft : pieces (· == '\n') ('\n' :: unixLines rest) =
        [] :: pieces (· == '\n') (unixLines rest) := rfl
    have hright : pieces (· == '\n') ('\r' :: '\n' :: rest) =
        ['\r'] :: pieces (· == '\n') rest := rfl
    rw [hleft, hright]
    exact .cons (by unfold SameUpToEnd; decide) ih
  -- any other character, a line break or not, stands in both texts
  | case3 c rest _ ih =>
    cases hc : c == '\n' with
    | true =>
      have hcut : ∀ text, pieces (· == '\n') (c :: text) = [] :: pieces (· == '\n') text := by
        intro text
        simp [pieces, hc]
      rw [hcut, hcut]
      exact .cons rfl ih
    | false =>
      obtain ⟨piece, others, hp, hgrown⟩ := pieces_cons_of_not_cuts (· == '\n') hc rest
      obtain ⟨piece', others', hp', hgrown'⟩ :=
        pieces_cons_of_not_cuts (· == '\n') hc (unixLines rest)
      rw [hp, hp'] at ih
      rw [hgrown, hgrown']
      cases ih with
      | cons hfirst hrest => exact .cons (hfirst.cons c) hrest

end Text

namespace Rule

/-- The blanks at the end of a line do not matter to reading it. -/
theorem Progress.readLine_congr (p : Progress) (number : Nat) {line line' : List Char}
    (h : Text.SameUpToEnd line line') : p.readLine number line = p.readLine number line' := by
  have htrim : Text.trim line = Text.trim line' := Text.trim_congr h
  unfold readLine
  rw [htrim]

/-- Nor do they matter on any of the lines. -/
theorem readLines_congr {lines lines' : List (List Char)}
    (h : List.Forall₂ Text.SameUpToEnd lines lines') (p : Progress) (number : Nat) :
    readLines p number lines = readLines p number lines' := by
  induction h generalizing p number with
  | nil => rfl
  | cons hline _ ih =>
    unfold readLines at *
    simp only [List.zipIdx_cons, List.foldl_cons]
    rw [p.readLine_congr number hline]
    exact ih _ _

/-- Giving a text its line ends once more changes the lines of the rule, but not what is read from
them. -/
theorem ofText_unixLines (text : String) :
    ∃ lines, ofText (.ofList (Text.unixLines text.toList)) =
      ⟨lines, (ofText text).fields, (ofText text).firstMalformed⟩ := by
  have hlines : List.Forall₂ Text.SameUpToEnd
      (textLines (.ofList (Text.unixLines text.toList))) (textLines text) := by
    unfold textLines
    rw [String.toList_ofList]
    exact Text.splitOn_unixLines _
  refine ⟨(textLines (.ofList (Text.unixLines text.toList))).map String.ofList, ?_⟩
  unfold ofText
  simp only [readLines_congr hlines]

end Rule

end Reticle
