import Mathlib.Data.List.TakeWhile
import Reticle.Proofs.Joining
import Reticle.Proofs.Lines
import Reticle.Text.Blank

/-!
# Words between blanks

`Spaced` says how a text is written as words with blanks between them. These words are the ones
that `words` finds, so that what is to be shown of a text with given words can be shown word by
word. Trimming does not change the words.
-/

namespace Reticle.Text

/-! ## Runs -/

section Runs

variable {cuts : Char → Bool} {c : Char}

/-- A cut at the start of a text begins no run. -/
theorem runs_cons (hc : cuts c = true) (rest : List Char) : runs cuts (c :: rest) = runs cuts rest := by
  simp [runs, pieces, hc]

/-- A run ends where the next cut is. -/
theorem runs_append {run rest : List Char} (hne : run ≠ []) (hrun : ∀ c ∈ run, cuts c = false)
    (hstop : ∀ c ∈ rest.head?, cuts c = true) : runs cuts (run ++ rest) = run :: runs cuts rest := by
  unfold runs
  rcases rest with _ | ⟨c, rest⟩
  · have hnil : pieces cuts [] = [[]] := rfl
    rw [pieces_append hrun hnil]
    simp [hne, pieces]
  · have hcut : pieces cuts (c :: rest) = [] :: pieces cuts rest := by
      simp [pieces, hstop c rfl]
    rw [pieces_append hrun hcut, hcut]
    simp [hne]

/-- A cut separates the runs before it from those behind it. -/
theorem runs_append_cut (hc : cuts c = true) (text rest : List Char) :
    runs cuts (text ++ c :: rest) = runs cuts text ++ runs cuts rest := by
  unfold runs
  rw [pieces_append_cut hc, List.filter_append]

end Runs

/-! ## Words -/

/-- The words stand in the text in this order, with at least one blank between any two of them and
nothing else around them than blanks. -/
inductive Spaced : List (List Char) → List Char → Prop
  | nil : Spaced [] []
  | blank {c : Char} {text : List Char} {words : List (List Char)} (hc : isBlank c = true)
    (h : Spaced words text) : Spaced words (c :: text)
  | word {word text : List Char} {words : List (List Char)} (hne : word ≠ [])
    (hword : ∀ c ∈ word, isBlank c = false) (hstop : ∀ c ∈ text.head?, isBlank c = true)
    (h : Spaced words text) : Spaced (word :: words) (word ++ text)

/-- A blank at the start of a text begins no word. -/
theorem words_cons {c : Char} (hc : isBlank c = true) (rest : List Char) :
    words (c :: rest) = words rest :=
  runs_cons hc rest

/-- A word ends where the next blank is. -/
theorem words_append {word rest : List Char} (hne : word ≠ [])
    (hword : ∀ c ∈ word, isBlank c = false) (hstop : ∀ c ∈ rest.head?, isBlank c = true) :
    words (word ++ rest) = word :: words rest :=
  runs_append hne hword hstop

/-- The words of a text are those that it is spaced out of. -/
theorem Spaced.words_eq {words : List (List Char)} {text : List Char} (h : Spaced words text) :
    Text.words text = words := by
  induction h with
  | nil => rfl
  | blank hc _ ih => rw [words_cons hc, ih]
  | word hne hword hstop _ ih => rw [words_append hne hword hstop, ih]

/-- Every text is spaced out of its words. -/
theorem spaced_words (text : List Char) : Spaced (words text) text := by
  induction hn : text.length using Nat.strong_induction_on generalizing text with
  | _ n ih =>
    subst hn
    rcases text with _ | ⟨c, rest⟩
    · exact .nil
    cases hc : isBlank c with
    | true =>
      rw [words_cons hc]
      exact .blank hc (ih _ (by simp) rest rfl)
    | false =>
      -- the first word is the longest start without blanks
      have hsplit : (c :: rest).takeWhile (! isBlank ·) ++ (c :: rest).dropWhile (! isBlank ·) =
        c :: rest := List.takeWhile_append_dropWhile
      have hne : (c :: rest).takeWhile (! isBlank ·) ≠ [] := by simp [hc]
      have hword : ∀ d ∈ (c :: rest).takeWhile (! isBlank ·), isBlank d = false := by
        intro d hd
        simpa using List.mem_takeWhile_imp hd
      have hstop : ∀ d ∈ ((c :: rest).dropWhile (! isBlank ·)).head?, isBlank d = true := by
        intro d hd
        have hnot := List.head?_dropWhile_not (! isBlank ·) (c :: rest)
        rw [hd] at hnot
        simpa using hnot
      have hshort : ((c :: rest).dropWhile (! isBlank ·)).length < (c :: rest).length := by
        rw [List.dropWhile_cons, hc]
        simp only [Bool.not_false, if_true, List.length_cons]
        exact Nat.lt_succ_of_le (List.length_dropWhile_le _ _)
      rw [← hsplit, words_append hne hword hstop]
      exact .word hne hword hstop (ih _ hshort _ rfl)

/-- Blanks at the end do not change what a text is spaced out of. -/
theorem Spaced.append_blanks {words : List (List Char)} {text blanks : List Char}
    (h : Spaced words text) (hb : ∀ c ∈ blanks, isBlank c = true) :
    Spaced words (text ++ blanks) := by
  induction h with
  | nil =>
    induction blanks with
    | nil => exact .nil
    | cons c rest ih =>
      exact .blank (hb c List.mem_cons_self) (ih fun d hd => hb d (List.mem_cons_of_mem _ hd))
  | blank hc _ ih => exact .blank hc ih
  | @word word text words hne hword hstop _ ih =>
    rw [List.append_assoc]
    refine .word hne hword ?_ ih
    intro c hc
    rcases text with _ | ⟨d, text⟩
    · exact hb c (List.mem_of_mem_head? hc)
    · exact hstop c hc

/-- Blanks at the start of a text are between no words. -/
theorem words_trimStart (text : List Char) : words (trimStart text) = words text := by
  induction text with
  | nil => rfl
  | cons c rest ih =>
    unfold trimStart at ih ⊢
    rw [List.dropWhile_cons]
    split
    · next hc => rw [ih, words_cons hc]
    · rfl

/-- Blanks at the end of a text are between no words. -/
theorem words_trimEnd (text : List Char) : words (trimEnd text) = words text := by
  have hsplit : trimEnd text ++ (text.reverse.takeWhile isBlank).reverse = text := by
    unfold trimEnd
    rw [← List.reverse_append, List.takeWhile_append_dropWhile, List.reverse_reverse]
  have hblanks : ∀ c ∈ (text.reverse.takeWhile isBlank).reverse, isBlank c = true := by
    intro c hc
    exact List.mem_takeWhile_imp (List.mem_reverse.1 hc)
  have hspaced := (spaced_words (trimEnd text)).append_blanks hblanks
  rw [hsplit] at hspaced
  exact hspaced.words_eq.symm

/-- Trimming a text keeps its words. -/
theorem words_trim (text : List Char) : words (trim text) = words text := by
  unfold trim
  rw [words_trimEnd, words_trimStart]

/-- A character of a text is blank or stands in one of its words. -/
theorem Spaced.blank_or_mem {words : List (List Char)} {text : List Char} (h : Spaced words text)
    {c : Char} (hc : c ∈ text) : isBlank c = true ∨ ∃ word ∈ words, c ∈ word := by
  induction h with
  | nil => exact absurd hc List.not_mem_nil
  | blank hblank _ ih =>
    rcases List.mem_cons.1 hc with rfl | hc
    · exact .inl hblank
    · exact ih hc
  | word hne hword hstop _ ih =>
    rcases List.mem_append.1 hc with hc | hc
    · exact .inr ⟨_, List.mem_cons_self, hc⟩
    · rcases ih hc with hblank | ⟨other, hother, hc⟩
      · exact .inl hblank
      · exact .inr ⟨other, List.mem_cons_of_mem _ hother, hc⟩

/-- Without blanks nothing is trimmed. -/
theorem trim_of_not_isBlank {text : List Char} (h : ∀ c ∈ text, isBlank c = false) :
    trim text = text := by
  have hdrop : ∀ run : List Char, (∀ c ∈ run, isBlank c = false) → run.dropWhile isBlank = run := by
    intro run hrun
    rcases run with _ | ⟨c, rest⟩
    · rfl
    · simp [hrun c List.mem_cons_self]
  unfold trim trimEnd trimStart
  rw [hdrop text h, hdrop text.reverse fun c hc => h c (List.mem_reverse.1 hc), List.reverse_reverse]

end Reticle.Text
