import Reticle.Proofs.BlankRuns
import Reticle.Proofs.RuleLines
import Reticle.Proofs.SignedNumerals
import Reticle.Rule.Coordinates

/-!
# Texts of coordinate lists

A coordinate list is written as pairs of decimals in square brackets, with spaces and commas between
them and perhaps one more pair of brackets around all of them. Whatever was read before an opening
bracket does not count, so each pair is read by itself (`WrittenPair.pairsAfter_pair`) and the list
is read as it was written (`CoordinateList.pairsAfter_text`). The lengths of runs of spaces do not
count either (`pairsAfter_squeeze`).
-/

namespace Reticle.Rule

/-! ## Reading pairs one after the other -/

/-- The offsets that are read from a text, where `inside` is the text since the last opening
bracket. -/
def pairsAfter (inside : Option (List Char)) (text : List Char) : List Offset :=
  (bracketedAfter inside text).filterMap readBracketed

theorem pairsAfter_nil (inside : Option (List Char)) : pairsAfter inside [] = [] :=
  rfl

/-- What stands before an opening bracket does not count. -/
theorem pairsAfter_opening (inside : Option (List Char)) (rest : List Char) :
    pairsAfter inside ('[' :: rest) = pairsAfter (some []) rest :=
  rfl

/-- A closing bracket that closes nothing is passed over. -/
theorem pairsAfter_closing_none (rest : List Char) :
    pairsAfter none (']' :: rest) = pairsAfter none rest :=
  rfl

/-- A closing bracket ends the text since the opening one. -/
theorem pairsAfter_closing (before rest : List Char) :
    pairsAfter (some before) (']' :: rest) =
      (readBracketed before.reverse).toList ++ pairsAfter none rest := by
  cases before with
  | nil => rfl
  | cons c before =>
    show ((c :: before).reverse :: bracketedAfter none rest).filterMap readBracketed = _
    rw [List.filterMap_cons]
    cases readBracketed (c :: before).reverse <;> rfl

/-- A character that is no bracket is kept while a pair is open, and passed over otherwise. -/
theorem pairsAfter_cons {c : Char} (hopening : c ≠ '[') (hclosing : c ≠ ']')
    (inside : Option (List Char)) (rest : List Char) :
    pairsAfter inside (c :: rest) = pairsAfter (inside.map (c :: ·)) rest := by
  unfold pairsAfter
  rw [bracketedAfter.eq_5 inside c rest hopening hclosing]

/-- A space is such a character. -/
theorem pairsAfter_space (inside : Option (List Char)) (rest : List Char) :
    pairsAfter inside (' ' :: rest) = pairsAfter (inside.map (' ' :: ·)) rest :=
  pairsAfter_cons (by decide) (by decide) inside rest

/-- A text without brackets is added to the text since the last opening bracket. -/
theorem pairsAfter_append {text : List Char} (h : ∀ c ∈ text, c ≠ '[' ∧ c ≠ ']')
    (inside : Option (List Char)) (rest : List Char) :
    pairsAfter inside (text ++ rest) = pairsAfter (inside.map (text.reverse ++ ·)) rest := by
  induction text generalizing inside with
  | nil => simp
  | cons c text ih =>
    obtain ⟨hopening, hclosing⟩ := h c List.mem_cons_self
    rw [List.cons_append, pairsAfter_cons hopening hclosing,
      ih fun d hd => h d (List.mem_cons_of_mem _ hd), Option.map_map]
    congr 2
    funext before
    simp

/-- If there are bracketed pairs in the text of a field, they are the offsets that it lists. -/
theorem offsets_of_pairs {f : Field} (h : pairsAfter none f.text.toList ≠ []) :
    Field.offsets f = pairsAfter none f.text.toList := by
  unfold Field.offsets bracketed
  exact if_pos (by simpa [pairsAfter] using h)

/-! ## Reading squeezed texts -/

/-- What matters of the text since the last opening bracket is which pairs it can become. -/
theorem pairsAfter_congr {before before' : List Char}
    (h : ∀ more, readBracketed (before.reverse ++ more) = readBracketed (before'.reverse ++ more))
    (text : List Char) : pairsAfter (some before) text = pairsAfter (some before') text := by
  induction text generalizing before before' with
  | nil => rfl
  | cons c text ih =>
    by_cases hopening : c = '['
    · subst hopening
      rw [pairsAfter_opening, pairsAfter_opening]
    by_cases hclosing : c = ']'
    · subst hclosing
      have hread := h []
      rw [List.append_nil, List.append_nil] at hread
      rw [pairsAfter_closing, pairsAfter_closing, hread]
    · rw [pairsAfter_cons hopening hclosing, pairsAfter_cons hopening hclosing]
      apply ih
      intro more
      rw [List.reverse_cons, List.reverse_cons, List.append_assoc, List.append_assoc]
      exact h (c :: more)

/-- Between numbers two spaces read like one. -/
theorem readBracketed_space_space (before more : List Char) :
    readBracketed (before ++ ' ' :: ' ' :: more) = readBracketed (before ++ ' ' :: more) := by
  unfold readBracketed
  rw [Text.runs_append_cut rfl, Text.runs_append_cut rfl, Text.runs_cons rfl]

/-- In a whole list, too, two spaces read like one. -/
theorem pairsAfter_space_space (inside : Option (List Char)) (text : List Char) :
    pairsAfter inside (' ' :: ' ' :: text) = pairsAfter inside (' ' :: text) := by
  rw [pairsAfter_space, pairsAfter_space, pairsAfter_space]
  cases inside with
  | none => rfl
  | some before =>
    apply pairsAfter_congr
    intro more
    simpa using readBracketed_space_space before.reverse more

/-- Reading pairs does not look at the lengths of runs of spaces. -/
theorem pairsAfter_squeeze {text : List Char} (h : ∀ c ∈ text, Text.isBlank c = true → c = ' ')
    (inside : Option (List Char)) :
    pairsAfter inside (Text.squeeze text) = pairsAfter inside text := by
  induction text generalizing inside with
  | nil => rfl
  | cons c text ih =>
    have ih := fun inside => ih (fun d hd => h d (List.mem_cons_of_mem _ hd)) inside
    rw [Text.squeeze_cons]
    unfold Text.joinBlank
    split
    · next hblank =>
      obtain rfl := h c List.mem_cons_self hblank
      split
      · next hrest =>
        -- The blank was dropped because one follows, or because nothing does.
        have hadded : pairsAfter inside (' ' :: text) =
            pairsAfter inside (' ' :: Text.squeeze text) := by
          rw [pairsAfter_space, pairsAfter_space, ih]
        rw [hadded]
        rcases hrest with hnil | hhead
        · rw [hnil, pairsAfter_space, pairsAfter_nil, pairsAfter_nil]
        · obtain ⟨more, hmore⟩ := List.head?_eq_some_iff.1 hhead
          rw [hmore, pairsAfter_space_space]
      · rw [pairsAfter_space, pairsAfter_space, ih]
    · by_cases hopening : c = '['
      · subst hopening
        rw [pairsAfter_opening, pairsAfter_opening, ih]
      by_cases hclosing : c = ']'
      · subst hclosing
        cases inside with
        | none => rw [pairsAfter_closing_none, pairsAfter_closing_none, ih]
        | some before => rw [pairsAfter_closing, pairsAfter_closing, ih]
      · rw [pairsAfter_cons hopening hclosing, pairsAfter_cons hopening hclosing, ih]

/-! ## Written pairs -/

/-- What stands between the two numbers of a pair. -/
inductive PairGap
  | space
  | comma
  | commaSpace
deriving DecidableEq

/-- How the gap in a pair is written. -/
def PairGap.text : PairGap → List Char
  | space => [' ']
  | comma => [',']
  | commaSpace => [',', ' ']

/-- Gaps between the two numbers of a pair consist of spaces and commas. -/
theorem PairGap.space_or_comma (g : PairGap) : ∀ c ∈ g.text, c = ' ' ∨ c = ',' := by
  intro c hc
  cases g with
  | space => exact .inl (List.mem_singleton.1 hc)
  | comma => exact .inr (List.mem_singleton.1 hc)
  | commaSpace =>
    rcases List.mem_cons.1 hc with rfl | hc
    · exact .inr rfl
    · exact .inl (List.mem_singleton.1 hc)

/-- A decimal that is not too large for a double. -/
structure Coordinate where
  numeral : Formula.SignedNumeral
  isFinite : numeral.value.isFinite = true

/-- A pair of coordinates as it is written. -/
structure WrittenPair where
  row : Coordinate
  gap : PairGap
  col : Coordinate

namespace WrittenPair

/-- What stands in the brackets of a pair. -/
def body (p : WrittenPair) : List Char :=
  p.row.numeral.text ++ (p.gap.text ++ p.col.numeral.text)

/-- A pair in its brackets. -/
def text (p : WrittenPair) : List Char :=
  '[' :: (p.body ++ [']'])

/-- The offset that a pair writes. -/
def offset (p : WrittenPair) : Offset :=
  ⟨p.row.numeral.value, p.col.numeral.value⟩

end WrittenPair

/-- Spaces and commas. -/
structure Separator where
  text : List Char
  space_or_comma : ∀ c ∈ text, c = ' ' ∨ c = ','

/-- What can stand in a pair can also stand between pairs. -/
def PairGap.separator (g : PairGap) : Separator :=
  ⟨g.text, g.space_or_comma⟩

/-- A list of pairs as it is written: pairs with separators between them, perhaps with brackets
around the whole and separators at their insides. -/
structure CoordinateList where
  first : WrittenPair
  more : List (Separator × WrittenPair)
  outer : Option (Separator × Separator)

namespace CoordinateList

/-- The pairs with the separators between them. -/
def inner (l : CoordinateList) : List Char :=
  l.first.text ++ l.more.flatMap fun (separator, p) => separator.text ++ p.text

/-- The text of a list. -/
def text (l : CoordinateList) : List Char :=
  match l.outer with
  | none => l.inner
  | some (before, after) => '[' :: (before.text ++ (l.inner ++ (after.text ++ [']'])))

/-- The offsets that a list writes, in order. -/
def offsets (l : CoordinateList) : List Offset :=
  l.first.offset :: l.more.map fun (_, p) => p.offset

end CoordinateList

/-! ## Reading what was written -/

/-- The characters in the brackets of a pair and between pairs: spaces, commas and the parts of
numbers. -/
def isInnerChar (c : Char) : Bool :=
  c == ' ' || c == ',' || c == '-' || Formula.isNumberChar c

/-- Spaces and commas may stand inside a pair. -/
theorem isInnerChar_of_space_or_comma {c : Char} (h : c = ' ' ∨ c = ',') :
    isInnerChar c = true := by
  rcases h with rfl | rfl <;> rfl

/-- What numbers are written with may stand inside a pair. -/
theorem isInnerChar_of_mem_numeral {n : Formula.SignedNumeral} {c : Char} (h : c ∈ n.text) :
    isInnerChar c = true := by
  unfold isInnerChar
  rcases n.isNumberChar_of_mem h with rfl | hnumber
  · rfl
  · rw [hnumber, Bool.or_true]

/-- What may stand inside a pair is no bracket. -/
theorem not_bracket_of_isInnerChar {c : Char} (h : isInnerChar c = true) : c ≠ '[' ∧ c ≠ ']' := by
  constructor <;> rintro rfl <;> exact absurd h (by decide)

/-- A number is no place to cut. -/
theorem not_cut_of_mem_numeral {n : Formula.SignedNumeral} {c : Char} (h : c ∈ n.text) :
    (c == ',' || c == ' ') = false := by
  by_contra hc
  have hcut : c = ',' ∨ c = ' ' := by simpa [or_iff_not_imp_left] using hc
  rcases n.isNumberChar_of_mem h with rfl | hnumber
  · rcases hcut with hcut | hcut <;> exact absurd hcut (by decide)
  · rcases hcut with rfl | rfl <;> exact absurd hnumber (by decide)

/-- Separators are written with such characters too. -/
theorem Separator.isInnerChar_of_mem (s : Separator) {c : Char} (h : c ∈ s.text) :
    isInnerChar c = true :=
  isInnerChar_of_space_or_comma (s.space_or_comma c h)

/-- So separators open and close nothing. -/
theorem Separator.not_bracket (s : Separator) : ∀ c ∈ s.text, c ≠ '[' ∧ c ≠ ']' :=
  fun _ hc => not_bracket_of_isInnerChar (s.isInnerChar_of_mem hc)

namespace WrittenPair

variable (p : WrittenPair)

/-- The numbers of a pair are the first two runs between its brackets. -/
theorem runs_body :
    Text.runs (fun c => c == ',' || c == ' ') p.body =
      [p.row.numeral.text, p.col.numeral.text] := by
  have hcol : Text.runs (fun c => c == ',' || c == ' ') p.col.numeral.text =
      [p.col.numeral.text] := by
    have hstop : ∀ c ∈ ([] : List Char).head?, (c == ',' || c == ' ') = true := by simp
    have hruns := Text.runs_append p.col.numeral.text_ne_nil
      (fun c hc => not_cut_of_mem_numeral hc) hstop
    rwa [List.append_nil] at hruns
  have hgap : Text.runs (fun c => c == ',' || c == ' ') (p.gap.text ++ p.col.numeral.text) =
      [p.col.numeral.text] := by
    rw [← hcol]
    cases p.gap with
    | space => exact Text.runs_cons rfl _
    | comma => exact Text.runs_cons rfl _
    | commaSpace => exact (Text.runs_cons rfl _).trans (Text.runs_cons rfl _)
  have hstop : ∀ c ∈ (p.gap.text ++ p.col.numeral.text).head?, (c == ',' || c == ' ') = true := by
    intro c hc
    cases hkind : p.gap <;> (rw [hkind] at hc; obtain rfl := Option.some.inj hc; decide)
  unfold body
  rw [Text.runs_append p.row.numeral.text_ne_nil (fun c hc => not_cut_of_mem_numeral hc) hstop,
    hgap]

/-- What stands between the brackets of a pair is read as the offset of the pair. -/
theorem readBracketed_body : readBracketed p.body = some p.offset := by
  unfold readBracketed readPair
  rw [p.runs_body]
  dsimp only
  rw [Formula.SignedNumeral.readLeading_text p.row.isFinite,
    Formula.SignedNumeral.readLeading_text p.col.isFinite]
  rfl

/-- What stands between the brackets of a pair may stand there. -/
theorem isInnerChar_of_mem_body {c : Char} (h : c ∈ p.body) : isInnerChar c = true := by
  unfold body at h
  rcases List.mem_append.1 h with h | h
  · exact isInnerChar_of_mem_numeral h
  rcases List.mem_append.1 h with h | h
  · exact isInnerChar_of_space_or_comma (p.gap.space_or_comma c h)
  · exact isInnerChar_of_mem_numeral h

/-- There are no brackets between those of a pair. -/
theorem not_bracket_body : ∀ c ∈ p.body, c ≠ '[' ∧ c ≠ ']' :=
  fun _ hc => not_bracket_of_isInnerChar (p.isInnerChar_of_mem_body hc)

/-- A pair is read by itself, whatever stands before it. -/
theorem pairsAfter_pair (inside : Option (List Char)) (rest : List Char) :
    pairsAfter inside (p.text ++ rest) = p.offset :: pairsAfter none rest := by
  unfold text
  rw [List.cons_append, pairsAfter_opening, List.append_assoc, pairsAfter_append p.not_bracket_body,
    Option.map_some, List.append_nil, List.singleton_append, pairsAfter_closing,
    List.reverse_reverse, p.readBracketed_body]
  rfl

end WrittenPair

namespace CoordinateList

/-- Pairs with separators in front of them are read one after the other. -/
theorem pairsAfter_more (more : List (Separator × WrittenPair)) (rest : List Char) :
    pairsAfter none ((more.flatMap fun (separator, p) => separator.text ++ p.text) ++ rest) =
      more.map (fun (_, p) => p.offset) ++ pairsAfter none rest := by
  induction more with
  | nil => rfl
  | cons entry more ih =>
    obtain ⟨separator, p⟩ := entry
    rw [List.flatMap_cons, List.append_assoc, List.append_assoc,
      pairsAfter_append separator.not_bracket, Option.map_none, p.pairsAfter_pair, ih]
    rfl

/-- The inside of a list is read as its offsets, whatever was open before it. -/
theorem pairsAfter_inner (l : CoordinateList) (inside : Option (List Char)) (rest : List Char) :
    pairsAfter inside (l.inner ++ rest) = l.offsets ++ pairsAfter none rest := by
  unfold inner
  rw [List.append_assoc, l.first.pairsAfter_pair, pairsAfter_more]
  rfl

/-- A list is read as it was written. -/
theorem pairsAfter_text (l : CoordinateList) : pairsAfter none l.text = l.offsets := by
  unfold text
  cases l.outer with
  | none =>
    have hread := l.pairsAfter_inner none []
    rwa [List.append_nil, pairsAfter_nil, List.append_nil] at hread
  | some outer =>
    obtain ⟨before, after⟩ := outer
    dsimp only
    rw [pairsAfter_opening, pairsAfter_append before.not_bracket, pairsAfter_inner,
      pairsAfter_append after.not_bracket, Option.map_none, pairsAfter_closing_none, pairsAfter_nil,
      List.append_nil]

/-! ## The shape of the text -/

/-- A coordinate list starts with a bracket. -/
theorem head?_text (l : CoordinateList) : l.text.head? = some '[' := by
  unfold text
  cases l.outer <;> rfl

end CoordinateList

/-- A text in brackets of its own closes what it opens. -/
theorem bracketDepth_bracketed {text : List Char} (h : bracketDepth text = 0) :
    bracketDepth ('[' :: (text ++ [']'])) = 0 := by
  have hopening : bracketDepth ['['] = 1 := rfl
  have hclosing : bracketDepth [']'] = -1 := rfl
  rw [← List.singleton_append, bracketDepth_append, bracketDepth_append, h, hopening, hclosing]
  rfl

namespace CoordinateList

variable (l : CoordinateList)

/-- The brackets inside a list are balanced. -/
theorem bracketDepth_inner : bracketDepth l.inner = 0 := by
  have hpair : ∀ p : WrittenPair, bracketDepth p.text = 0 := fun p =>
    bracketDepth_bracketed (bracketDepth_of_not_bracket p.not_bracket_body)
  have hmore : ∀ more : List (Separator × WrittenPair),
      bracketDepth (more.flatMap fun (separator, p) => separator.text ++ p.text) = 0 := by
    intro more
    induction more with
    | nil => rfl
    | cons entry more ih =>
      rw [List.flatMap_cons, bracketDepth_append, bracketDepth_append, ih, hpair,
        bracketDepth_of_not_bracket entry.1.not_bracket]
      rfl
  unfold inner
  rw [bracketDepth_append, hpair, hmore]
  rfl

/-- All brackets of a list are closed. -/
theorem bracketDepth_text : bracketDepth l.text = 0 := by
  unfold text
  cases l.outer with
  | none => exact l.bracketDepth_inner
  | some outer =>
    obtain ⟨before, after⟩ := outer
    dsimp only
    rw [← List.append_assoc l.inner, ← List.append_assoc before.text]
    apply bracketDepth_bracketed
    rw [bracketDepth_append, bracketDepth_append, l.bracketDepth_inner,
      bracketDepth_of_not_bracket before.not_bracket, bracketDepth_of_not_bracket after.not_bracket]
    rfl

/-- The characters of a list. -/
theorem of_mem_text {c : Char} (h : c ∈ l.text) : c = '[' ∨ c = ']' ∨ isInnerChar c = true := by
  have hpair : ∀ p : WrittenPair, c ∈ p.text → c = '[' ∨ c = ']' ∨ isInnerChar c = true := by
    intro p hp
    rcases List.mem_cons.1 hp with hc | hp
    · exact .inl hc
    rcases List.mem_append.1 hp with hp | hc
    · exact .inr (.inr (p.isInnerChar_of_mem_body hp))
    · exact .inr (.inl (List.mem_singleton.1 hc))
  have hinner : c ∈ l.inner → c = '[' ∨ c = ']' ∨ isInnerChar c = true := by
    intro hc
    rcases List.mem_append.1 hc with hc | hc
    · exact hpair _ hc
    obtain ⟨entry, -, hc⟩ := List.mem_flatMap.1 hc
    rcases List.mem_append.1 hc with hc | hc
    · exact .inr (.inr (entry.1.isInnerChar_of_mem hc))
    · exact hpair _ hc
  unfold text at h
  cases houter : l.outer with
  | none =>
    rw [houter] at h
    exact hinner h
  | some outer =>
    obtain ⟨before, after⟩ := outer
    rw [houter] at h
    dsimp only at h
    rcases List.mem_cons.1 h with hc | h
    · exact .inl hc
    rcases List.mem_append.1 h with h | h
    · exact .inr (.inr (before.isInnerChar_of_mem h))
    rcases List.mem_append.1 h with h | h
    · exact hinner h
    rcases List.mem_append.1 h with h | h
    · exact .inr (.inr (after.isInnerChar_of_mem h))
    · exact .inr (.inl (List.mem_singleton.1 h))

/-- The only blanks in a list are spaces. -/
theorem eq_space_of_mem_text {c : Char} (h : c ∈ l.text) (hblank : Text.isBlank c = true) :
    c = ' ' := by
  rcases l.of_mem_text h with rfl | rfl | hinner
  · exact absurd hblank (by decide)
  · exact absurd hblank (by decide)
  · unfold isInnerChar at hinner
    simp only [Bool.or_eq_true, beq_iff_eq] at hinner
    rcases hinner with ((hc | rfl) | rfl) | hnumber
    · exact hc
    · exact absurd hblank (by decide)
    · exact absurd hblank (by decide)
    · rw [Formula.isNumberChar_of_isBlank hblank] at hnumber
      exact Bool.noConfusion hnumber

end CoordinateList

end Reticle.Rule
