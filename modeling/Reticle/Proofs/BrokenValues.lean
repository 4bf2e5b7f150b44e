import Reticle.Proofs.CoordinateTexts
import Reticle.Proofs.Layout

/-!
# Values over several lines

A line break inside open brackets is read as a space, and the blanks around it do not count.
`Breaks` says how such breaks are put into a value. The value then goes on exactly as long as its
brackets are open (`Breaks.continues`), and its joined lines are read like the value on one line
(`pairsAfter_joinWith`).
-/

namespace Reticle.Rule

/-! ## Breaking a value -/

/-- Some spaces of a text that follows so many open brackets are replaced by line breaks, each where
a bracket is open, with any blanks before and behind them. -/
inductive Breaks : Int → List Char → List Char → Prop
  | nil {depth : Int} : Breaks depth [] []
  | keep {depth : Int} {c : Char} {text value : List Char}
    (h : Breaks (depth + bracketDepth [c]) text value) : Breaks depth (c :: text) (c :: value)
  | line {depth : Int} {gap text value : List Char} (hdepth : 0 < depth)
    (hblank : ∀ c ∈ gap, Text.isBlank c = true) (hline : '\n' ∈ gap) (h : Breaks depth text value) :
    Breaks depth (' ' :: text) (gap ++ value)

/-- A text that is not broken at all is a case of being broken. -/
theorem Breaks.refl (depth : Int) (text : List Char) : Breaks depth text text := by
  induction text generalizing depth with
  | nil => exact .nil
  | cons c text ih => exact .keep (ih _)

/-- A value that starts with a bracket is not broken there. -/
theorem Breaks.head?_eq {text value : List Char} (h : Breaks 0 text value) :
    value.head? = text.head? := by
  cases h with
  | nil => rfl
  | keep _ => rfl
  | line hdepth _ _ _ => exact absurd hdepth (Int.lt_irrefl 0)

/-- However a value is broken over lines, it squeezes to the same text. -/
theorem Breaks.squeeze_eq {depth : Int} {text value : List Char} (h : Breaks depth text value) :
    Text.squeeze value = Text.squeeze text := by
  induction h with
  | nil => rfl
  | keep _ ih => exact Text.squeeze_append_congr ih [_]
  | line _ hblank hline _ ih =>
    rw [Text.squeeze_blanks (List.ne_nil_of_mem hline) hblank]
    exact Text.squeeze_append_congr ih [' ']

/-- A gap with a line feed in it ends a line and starts another one, with blank lines between
them. -/
theorem exists_splitOn_gap {gap : List Char} (hblank : ∀ c ∈ gap, Text.isBlank c = true)
    (hline : '\n' ∈ gap) {value first : List Char} {rest : List (List Char)}
    (hvalue : Text.splitOn '\n' value = first :: rest) :
    ∃ (before after : List Char) (between : List (List Char)),
      Text.splitOn '\n' (gap ++ value) = before :: (between ++ (after ++ first) :: rest) ∧
      (∀ c ∈ before, Text.isBlank c = true) ∧ (∀ c ∈ after, Text.isBlank c = true) ∧
      ∀ line ∈ between, ∀ c ∈ line, Text.isBlank c = true := by
  induction gap with
  | nil => exact absurd hline List.not_mem_nil
  | cons c gap ih =>
    have hrest : ∀ d ∈ gap, Text.isBlank d = true :=
      fun d hd => hblank d (List.mem_cons_of_mem _ hd)
    by_cases hmore : '\n' ∈ gap
    · obtain ⟨before, after, between, hsplit, hbefore, hafter, hbetween⟩ := ih hrest hmore
      by_cases hc : c = '\n'
      · subst hc
        refine ⟨[], after, before :: between, ?_, by simp, hafter, ?_⟩
        · rw [List.cons_append, List.cons_append, ← hsplit]
          exact Text.splitOn_append List.not_mem_nil _
        · intro line hmem
          rcases List.mem_cons.1 hmem with rfl | hmem
          · exact hbefore
          · exact hbetween line hmem
      · refine ⟨c :: before, after, between, ?_, ?_, hafter, hbetween⟩
        · rw [← List.singleton_append, List.append_assoc]
          exact Text.pieces_append (Text.not_cuts_of_not_mem (by simpa using Ne.symm hc)) hsplit
        · intro d hd
          rcases List.mem_cons.1 hd with rfl | hd
          · exact hblank _ List.mem_cons_self
          · exact hbefore d hd
    · -- This is the last line break of the gap: what follows it indents the value.
      obtain rfl : '\n' = c := (List.mem_cons.1 hline).resolve_right hmore
      refine ⟨[], gap, [], ?_, by simp, hrest, by simp⟩
      rw [List.cons_append, List.nil_append,
        ← Text.pieces_append (Text.not_cuts_of_not_mem hmore) hvalue]
      exact Text.splitOn_append List.not_mem_nil _

/-! ## The lines of a broken value -/

/-- The lines on which a value goes on after so many open brackets: the brackets close with the last
of them, and there are no other blanks than spaces but at the ends of lines. -/
structure Continues (depth : Int) (first : List Char) (rest : List (List Char)) : Prop where
  closes : Closes (depth + bracketDepth first) (rest.map Text.trim)
  spaces_first : ∀ c ∈ Text.trimEnd first, Text.isBlank c = true → c = ' '
  spaces_rest : ∀ line ∈ rest, ∀ c ∈ Text.trim line, Text.isBlank c = true → c = ' '

/-- A character that is no blank but the space may stand in front of what continues. -/
theorem Continues.keep {depth : Int} {c : Char} {first : List Char} {rest : List (List Char)}
    (h : Continues (depth + bracketDepth [c]) first rest) (hc : Text.isBlank c = true → c = ' ') :
    Continues depth (c :: first) rest := by
  refine ⟨?_, ?_, h.spaces_rest⟩
  · rw [← List.singleton_append, bracketDepth_append, ← Int.add_assoc]
    exact h.closes
  · intro d hd
    rw [Text.trimEnd_cons] at hd
    split at hd
    · exact absurd hd List.not_mem_nil
    · rcases List.mem_cons.1 hd with rfl | hd
      · exact hc
      · exact h.spaces_first d hd

/-- Blank lines change nothing about open brackets. -/
theorem Closes.blank {depth : Int} {lines : List (List Char)} (hdepth : 0 < depth)
    (h : Closes depth lines) {between : List (List Char)}
    (hbetween : ∀ line ∈ between, ∀ c ∈ line, Text.isBlank c = true) :
    Closes depth (between.map Text.trim ++ lines) := by
  induction between with
  | nil => exact h
  | cons line between ih =>
    have hline : bracketDepth (Text.trim line) = 0 := by
      rw [Text.trim_of_blank (hbetween line List.mem_cons_self)]
      rfl
    refine ⟨hdepth, ?_⟩
    rw [hline, Int.add_zero]
    exact ih fun other hother => hbetween other (List.mem_cons_of_mem _ hother)

/-- Inside brackets a line may end: blanks, blank lines and the indentation of the next line stand
between its two parts. -/
theorem Continues.line {depth : Int} {first : List Char} {rest : List (List Char)}
    (h : Continues depth first rest) (hdepth : 0 < depth) {before after : List Char}
    {between : List (List Char)} (hbefore : ∀ c ∈ before, Text.isBlank c = true)
    (hafter : ∀ c ∈ after, Text.isBlank c = true)
    (hbetween : ∀ line ∈ between, ∀ c ∈ line, Text.isBlank c = true) :
    Continues depth before (between ++ (after ++ first) :: rest) := by
  have htrim : Text.trim (after ++ first) = Text.trim first := by
    have hstart : Text.trimStart (after ++ first) = Text.trimStart first :=
      List.dropWhile_append_of_pos hafter
    unfold Text.trim
    rw [hstart]
  -- The brackets close with the last line and not before, and no blanks but spaces are left within.
  refine ⟨?_, ?_, ?_⟩
  · have hcloses : Closes depth ((after ++ first) :: rest |>.map Text.trim) := by
      refine ⟨hdepth, ?_⟩
      rw [htrim, bracketDepth_trim]
      exact h.closes
    rw [bracketDepth_of_blank hbefore, Int.add_zero, List.map_append]
    exact hcloses.blank hdepth hbetween
  · have hnil : Text.trimEnd before = [] := by
      unfold Text.trimEnd
      rw [List.dropWhile_eq_nil_iff.2 fun c hc => hbefore c (List.mem_reverse.1 hc)]
      rfl
    rw [hnil]
    simp
  · intro line hline c hc
    rcases List.mem_append.1 hline with hline | hline
    · rw [Text.trim_of_blank (hbetween line hline)] at hc
      exact absurd hc List.not_mem_nil
    rcases List.mem_cons.1 hline with rfl | hline
    · rw [htrim] at hc
      exact h.spaces_first c (Text.mem_trimEnd_of_mem_trim hc)
    · exact h.spaces_rest line hline c hc

/-- The lines of a broken value go on as long as its brackets are open. -/
theorem Breaks.continues {depth : Int} {text value : List Char} (h : Breaks depth text value)
    (htext : ∀ c ∈ text, Text.isBlank c = true → c = ' ')
    (hclosed : depth + bracketDepth text ≤ 0) :
    ∃ first rest, Text.splitOn '\n' value = first :: rest ∧ Continues depth first rest := by
  induction h with
  | nil => exact ⟨[], [], rfl, hclosed, by simp [Text.trimEnd], by simp⟩
  | @keep depth c text value _ ih =>
    have hc := htext c List.mem_cons_self
    rw [← List.singleton_append, bracketDepth_append, ← Int.add_assoc] at hclosed
    obtain ⟨first, rest, hsplit, hcontinues⟩ :=
      ih (fun d hd => htext d (List.mem_cons_of_mem _ hd)) hclosed
    have hne : '\n' ∉ [c] := by
      intro hmem
      obtain rfl := List.mem_singleton.1 hmem
      exact absurd (hc (by decide)) (by decide)
    exact ⟨c :: first, rest, Text.pieces_append (Text.not_cuts_of_not_mem hne) hsplit,
      hcontinues.keep hc⟩
  | line hdepth hblank hline _ ih =>
    have hspace : bracketDepth [' '] = 0 := rfl
    rw [← List.singleton_append, bracketDepth_append, hspace, Int.zero_add] at hclosed
    obtain ⟨first, rest, hsplit, hcontinues⟩ :=
      ih (fun d hd => htext d (List.mem_cons_of_mem _ hd)) hclosed
    obtain ⟨before, after, between, hlines, hbefore, hafter, hbetween⟩ :=
      exists_splitOn_gap hblank hline hsplit
    exact ⟨before, between ++ (after ++ first) :: rest, hlines,
      hcontinues.line hdepth hbefore hafter hbetween⟩

/-! ## Reading a broken value -/

/-- The joined lines of a broken value are read like the value on one line. -/
theorem pairsAfter_joinWith {depth : Int} {text value first : List Char} {rest : List (List Char)}
    (h : Breaks depth text value) (hlines : Text.splitOn '\n' value = first :: rest)
    (hcontinues : Continues depth first rest)
    (htext : ∀ c ∈ text, Text.isBlank c = true → c = ' ') :
    pairsAfter none (Text.joinWith ' ' ((first :: rest).map Text.trim)) = pairsAfter none text := by
  have hspace : ∀ text, pairsAfter none (' ' :: text) = pairsAfter none text := fun text =>
    pairsAfter_cons (by decide) (by decide) none text
  have hcons : ∀ {text : List Char}, (∀ c ∈ text, Text.isBlank c = true → c = ' ') →
      ∀ c ∈ ' ' :: text, Text.isBlank c = true → c = ' ' := by
    intro text h c hc hblank
    rcases List.mem_cons.1 hc with hc | hc
    · exact hc
    · exact h c hc hblank
  have hjoined : ∀ c ∈ Text.joinWith ' ' ((first :: rest).map Text.trim),
      Text.isBlank c = true → c = ' ' := by
    intro c hc hblank
    rcases Text.mem_joinWith hc with hc | ⟨part, hpart, hc⟩
    · exact hc
    rw [List.map_cons] at hpart
    rcases List.mem_cons.1 hpart with rfl | hpart
    · exact hcontinues.spaces_first c (Text.mem_trimEnd_of_mem_trim hc) hblank
    · obtain ⟨line, hline, rfl⟩ := List.mem_map.1 hpart
      exact hcontinues.spaces_rest line hline c hc hblank
  have hsqueezed : Text.squeeze (' ' :: Text.joinWith ' ' ((first :: rest).map Text.trim)) =
      Text.squeeze (' ' :: text) := by
    rw [Text.squeeze_joinWith_trim, ← hlines, Text.joinWith_splitOn]
    exact Text.squeeze_append_congr h.squeeze_eq [' ']
  rw [← hspace, ← pairsAfter_squeeze (hcons hjoined), hsqueezed, pairsAfter_squeeze (hcons htext),
    hspace]

end Reticle.Rule
