import Reticle.Proofs.Lines

/-!
# Runs of blanks

`squeeze` makes one space of each run of blanks and drops the blanks at the end. Two texts with the
same squeezed text differ at most in the lengths and the kinds of these runs. Joining the lines of a
text by spaces, without the blanks at their ends, makes such a difference only
(`squeeze_joinWith_trim`).
-/

namespace Reticle.Text

/-- Puts a character in front of a text; blanks are spaces, and there is only one where runs of them
meet and none at the end. -/
def joinBlank (c : Char) (rest : List Char) : List Char :=
  if isBlank c = true then
    if rest = [] ∨ rest.head? = some ' ' then rest else ' ' :: rest
  else c :: rest

/-- A text in which each run of blanks is one space, without the blanks at its end. -/
def squeeze (text : List Char) : List Char :=
  text.foldr joinBlank []

/-- Squeezing works from the end of the text, one character at a time. -/
theorem squeeze_cons (c : Char) (rest : List Char) :
    squeeze (c :: rest) = joinBlank c (squeeze rest) := by
  unfold squeeze
  rw [List.foldr_cons]

/-- All blank characters are alike to squeezing. -/
theorem joinBlank_of_blank {c : Char} (hc : isBlank c = true) (rest : List Char) :
    joinBlank c rest = joinBlank ' ' rest := by
  have hspace : isBlank ' ' = true := by decide
  unfold joinBlank
  rw [if_pos hc, if_pos hspace]

/-- Two blanks in a row count as one. -/
theorem joinBlank_joinBlank {c d : Char} (hc : isBlank c = true) (hd : isBlank d = true)
    (rest : List Char) : joinBlank c (joinBlank d rest) = joinBlank d rest := by
  unfold joinBlank
  rw [if_pos hc, if_pos hd]
  by_cases hrest : rest = [] ∨ rest.head? = some ' '
  · rw [if_pos hrest, if_pos hrest]
  · rw [if_neg hrest]
    exact if_pos (.inr rfl)

/-- Texts that squeeze alike do so behind any common text. -/
theorem squeeze_append_congr {text text' : List Char} (h : squeeze text = squeeze text')
    (before : List Char) : squeeze (before ++ text) = squeeze (before ++ text') := by
  unfold squeeze at h ⊢
  rw [List.foldr_append, List.foldr_append, h]

/-- A run of blanks is squeezed like one space. -/
theorem squeeze_blanks {blanks : List Char} (hne : blanks ≠ [])
    (hblank : ∀ c ∈ blanks, isBlank c = true) (rest : List Char) :
    squeeze (blanks ++ rest) = squeeze (' ' :: rest) := by
  induction blanks with
  | nil => exact absurd rfl hne
  | cons c blanks ih =>
    have hc := hblank c List.mem_cons_self
    rw [List.cons_append, squeeze_cons]
    by_cases hnil : blanks = []
    · rw [hnil, List.nil_append, joinBlank_of_blank hc, squeeze_cons]
    · rw [ih hnil fun d hd => hblank d (List.mem_cons_of_mem _ hd), squeeze_cons,
        joinBlank_joinBlank hc (by decide)]

/-- Behind a blank, blanks at the start of a text make no difference. -/
theorem squeeze_space_trimStart (text rest : List Char) :
    squeeze (' ' :: (trimStart text ++ rest)) = squeeze (' ' :: (text ++ rest)) := by
  induction text with
  | nil => rfl
  | cons c text ih =>
    unfold trimStart at ih ⊢
    rw [List.dropWhile_cons]
    split
    · next hc =>
      have htwo : ∀ d ∈ [' ', c], isBlank d = true := by
        intro d hd
        rcases List.mem_cons.1 hd with rfl | hd
        · decide
        · exact List.mem_singleton.1 hd ▸ hc
      rw [ih]
      exact (squeeze_blanks (List.cons_ne_nil _ _) htwo (text ++ rest)).symm
    · rfl

/-- Blanks at the end of a text do not count before other blanks or at the end. -/
theorem squeeze_trimEnd (text : List Char) {rest : List Char}
    (hrest : ∀ c ∈ rest.head?, isBlank c = true) :
    squeeze (trimEnd text ++ rest) = squeeze (text ++ rest) := by
  induction text with
  | nil => rfl
  | cons c text ih =>
    rw [trimEnd_cons]
    split
    · next hblank =>
      obtain ⟨hnil, hc⟩ := hblank
      rw [hnil] at ih
      rw [List.cons_append, squeeze_cons, ← ih, List.nil_append]
      cases rest with
      | nil => simp [squeeze, joinBlank, hc]
      | cons d rest =>
        rw [squeeze_cons, joinBlank_joinBlank hc (hrest d rfl)]
    · exact squeeze_append_congr ih [c]

/-- Between blanks, the blanks at both ends of a text make no difference. -/
theorem squeeze_space_trim (text : List Char) {rest : List Char}
    (hrest : ∀ c ∈ rest.head?, isBlank c = true) :
    squeeze (' ' :: (trim text ++ rest)) = squeeze (' ' :: (text ++ rest)) := by
  unfold trim
  rw [squeeze_cons, squeeze_trimEnd _ hrest, ← squeeze_cons, squeeze_space_trimStart]

/-- Lines that are joined by spaces without the blanks at their ends are the text that they are the
lines of, up to the lengths of runs of blanks. -/
theorem squeeze_joinWith_trim (lines : List (List Char)) :
    squeeze (' ' :: joinWith ' ' (lines.map trim)) = squeeze (' ' :: joinWith '\n' lines) := by
  induction lines with
  | nil => rfl
  | cons line lines ih =>
    cases lines with
    | nil =>
      have hend : ∀ c ∈ ([] : List Char).head?, isBlank c = true := by simp
      have htrim := squeeze_space_trim line hend
      rwa [List.append_nil, List.append_nil] at htrim
    | cons next more =>
      have hspace : ∀ c ∈ (' ' :: joinWith ' ' ((next :: more).map trim)).head?,
          isBlank c = true := by
        rintro c hc
        obtain rfl := Option.some.inj hc
        decide
      have hbreak : squeeze (' ' :: joinWith '\n' (next :: more)) =
          squeeze ('\n' :: joinWith '\n' (next :: more)) := by
        rw [squeeze_cons, squeeze_cons, joinBlank_of_blank (c := '\n') (by decide)]
      -- Between two joints a line may be trimmed, and a line break is as good as a space.
      calc squeeze (' ' :: joinWith ' ' ((line :: next :: more).map trim))
          = squeeze (' ' :: (trim line ++ ' ' :: joinWith ' ' ((next :: more).map trim))) := rfl
        _ = squeeze (' ' :: (line ++ ' ' :: joinWith ' ' ((next :: more).map trim))) :=
          squeeze_space_trim line hspace
        _ = squeeze (' ' :: (line ++ '\n' :: joinWith '\n' (next :: more))) :=
          squeeze_append_congr (ih.trans hbreak) (' ' :: line)
        _ = squeeze (' ' :: joinWith '\n' (line :: next :: more)) := rfl

end Reticle.Text
