import Reticle.Text.Split

/-!
# Joined texts

Pieces that do not hold a mark come back when the text that joins them is cut at the mark. So a
joined text tells its pieces apart, as long as none of them is empty: no pieces and one empty piece
are joined to the same text.
-/

namespace Reticle.Text

/-- A text without cuts joins the first piece of the text after it. -/
theorem pieces_append {cuts : Char → Bool} {text : List Char} (h : ∀ c ∈ text, cuts c = false)
    {rest piece : List Char} {others : List (List Char)} (hrest : pieces cuts rest = piece :: others) :
    pieces cuts (text ++ rest) = (text ++ piece) :: others := by
  induction text with
  | nil => exact hrest
  | cons c before ih =>
    rw [List.cons_append, pieces, ih fun d hd => h d (List.mem_cons_of_mem _ hd)]
    simp [h c List.mem_cons_self]

/-- A text without the mark is cut nowhere. -/
theorem not_cuts_of_not_mem {mark : Char} {text : List Char} (h : mark ∉ text) :
    ∀ c ∈ text, (c == mark) = false := by
  rintro c hc
  rw [beq_eq_false_iff_ne]
  rintro rfl
  exact h hc

/-- A text without the mark is one piece. -/
theorem pieces_of_not_mem {mark : Char} {text : List Char} (h : mark ∉ text) :
    splitOn mark text = [text] := by
  have hnil : pieces (· == mark) [] = [[]] := rfl
  have hpieces := pieces_append (not_cuts_of_not_mem h) hnil
  rwa [List.append_nil] at hpieces

/-- The first mark ends the first piece. -/
theorem splitOn_append {mark : Char} {text : List Char} (h : mark ∉ text) (rest : List Char) :
    splitOn mark (text ++ mark :: rest) = text :: splitOn mark rest := by
  have hcut : pieces (· == mark) (mark :: rest) = [] :: pieces (· == mark) rest := by simp [pieces]
  have hpieces := pieces_append (not_cuts_of_not_mem h) hcut
  rwa [List.append_nil] at hpieces

/-- The pieces before a character that cuts and those after it do not touch. -/
theorem pieces_append_cut {cuts : Char → Bool} {c : Char} (hc : cuts c = true)
    (text rest : List Char) :
    pieces cuts (text ++ c :: rest) = pieces cuts text ++ pieces cuts rest := by
  induction text with
  | nil => simp [pieces, hc]
  | cons d before ih =>
    rw [List.cons_append, pieces, pieces, ih]
    split
    · rfl
    · cases hfirst : pieces cuts before with
      | nil => exact absurd hfirst (pieces_ne_nil _ before)
      | cons piece others => rfl

/-- A mark always cuts. -/
theorem splitOn_append_mark (mark : Char) (text rest : List Char) :
    splitOn mark (text ++ mark :: rest) = splitOn mark text ++ splitOn mark rest := by
  apply pieces_append_cut
  exact beq_self_eq_true mark

/-- Cutting at a mark finds the first one. -/
theorem cutAt_append {mark : Char} {before : List Char} (h : mark ∉ before) (after : List Char) :
    cutAt mark (before ++ mark :: after) = some (before, after) := by
  induction before with
  | nil => exact if_pos rfl
  | cons c before ih =>
    obtain ⟨hc, hbefore⟩ := not_or.1 (mt List.mem_cons.2 h)
    rw [List.cons_append, cutAt, if_neg (Ne.symm hc), ih hbefore]
    rfl

/-- Pieces without the mark come back when their joined text is cut at it. -/
theorem splitOn_joinWith {mark : Char} {parts : List (List Char)} (hne : parts ≠ [])
    (h : ∀ part ∈ parts, mark ∉ part) : splitOn mark (joinWith mark parts) = parts := by
  induction parts with
  | nil => exact absurd rfl hne
  | cons part others ih =>
    cases others with
    | nil => exact pieces_of_not_mem (h part List.mem_cons_self)
    | cons next rest =>
      rw [joinWith, splitOn_append (h part List.mem_cons_self),
        ih (List.cons_ne_nil _ _) fun p hp => h p (List.mem_cons_of_mem _ hp)]
      exact List.cons_ne_nil _ _

/-- Joining adds no characters but the mark. -/
theorem mem_joinWith {mark c : Char} {parts : List (List Char)} (h : c ∈ joinWith mark parts) :
    c = mark ∨ ∃ part ∈ parts, c ∈ part := by
  induction parts with
  | nil => exact absurd h List.not_mem_nil
  | cons part parts ih =>
    cases parts with
    | nil => exact .inr ⟨part, List.mem_cons_self, h⟩
    | cons next more =>
      rcases List.mem_append.1 h with h | h
      · exact .inr ⟨part, List.mem_cons_self, h⟩
      rcases List.mem_cons.1 h with rfl | h
      · exact .inl rfl
      · rcases ih h with hc | ⟨other, hother, hc⟩
        · exact .inl hc
        · exact .inr ⟨other, List.mem_cons_of_mem _ hother, hc⟩

/-- Joining is injective on pieces that are not empty and do not hold the mark. -/
theorem joinWith_inj {mark : Char} {parts others : List (List Char)}
    (hp : ∀ part ∈ parts, mark ∉ part ∧ part ≠ [])
    (ho : ∀ part ∈ others, mark ∉ part ∧ part ≠ [])
    (h : joinWith mark parts = joinWith mark others) : parts = others := by
  have hnil : ∀ ps : List (List Char), (∀ part ∈ ps, mark ∉ part ∧ part ≠ []) → ps ≠ [] →
      joinWith mark ps ≠ [] := by
    intro ps hps hne
    match ps with
    | [] => exact absurd rfl hne
    | [part] => exact (hps part List.mem_cons_self).2
    | part :: next :: rest => simp [joinWith]
  by_cases hpn : parts = []
  · subst hpn
    by_cases hon : others = []
    · exact hon.symm
    · exact absurd h.symm (hnil others ho hon)
  · by_cases hon : others = []
    · subst hon
      exact absurd h (hnil parts hp hpn)
    · rw [← splitOn_joinWith hpn fun p hm => (hp p hm).1, h,
        splitOn_joinWith hon fun p hm => (ho p hm).1]

/-- Joined strings are their joined characters. -/
theorem toList_join (mark : Char) (parts : List String) :
    (join (.singleton mark) parts).toList = joinWith mark (parts.map String.toList) := by
  induction parts with
  | nil => rfl
  | cons part others ih =>
    cases others with
    | nil => rfl
    | cons next rest =>
      have hjoin : join (.singleton mark) (part :: next :: rest) =
          part ++ .singleton mark ++ join (.singleton mark) (next :: rest) := rfl
      rw [hjoin, String.toList_append, String.toList_append, ih]
      simp [joinWith]

end Reticle.Text
