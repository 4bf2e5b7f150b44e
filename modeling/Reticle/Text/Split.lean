/-!
# Cutting texts apart

`pieces` cuts a text at every character that passes a test, so that an empty text is one empty
piece; `cutAt` cuts at the first occurrence of a character only. The lemmas say that nothing is
lost: joining the pieces gives the text back, and no piece holds a cutting character or one that is
not in the text.
-/

namespace Reticle.Text

/-- The pieces of a text between the characters that pass a test; there is always at least one. -/
def pieces (cuts : Char → Bool) : List Char → List (List Char)
  | [] => [[]]
  | c :: rest =>
    if cuts c then [] :: pieces cuts rest
    else
      match pieces cuts rest with
      | [] => [[c]]
      | piece :: others => (c :: piece) :: others

/-- There is at least one piece, also of the empty text. -/
theorem pieces_ne_nil (cuts : Char → Bool) (text : List Char) : pieces cuts text ≠ [] := by
  cases text with
  | nil => simp [pieces]
  | cons c rest =>
    simp only [pieces]
    split
    · simp
    · split <;> simp

/-- Cutting adds no characters. -/
theorem mem_of_mem_pieces {cuts : Char → Bool} {text piece : List Char} {c : Char}
    (h : piece ∈ pieces cuts text) (hc : c ∈ piece) : c ∈ text := by
  induction text generalizing piece with
  | nil => simp_all [pieces]
  | cons d rest ih =>
    unfold pieces at h
    split at h
    · rcases List.mem_cons.1 h with rfl | h
      · cases hc
      · exact List.mem_cons_of_mem _ (ih h hc)
    · obtain ⟨first, others, hfirst⟩ := List.exists_cons_of_ne_nil (pieces_ne_nil cuts rest)
      rw [hfirst] at h ih
      rcases List.mem_cons.1 h with rfl | h
      · rcases List.mem_cons.1 hc with rfl | hc
        · exact List.mem_cons_self
        · exact List.mem_cons_of_mem _ (ih List.mem_cons_self hc)
      · exact List.mem_cons_of_mem _ (ih (List.mem_cons_of_mem _ h) hc)

/-- The pieces of a text between the occurrences of a character. -/
def splitOn (mark : Char) (text : List Char) : List (List Char) :=
  pieces (· == mark) text

/-- Pieces, joined by a character. -/
def joinWith (mark : Char) : List (List Char) → List Char
  | [] => []
  | [piece] => piece
  | piece :: others => piece ++ mark :: joinWith mark others

/-- Pieces that are joined again with the mark give the text back. -/
theorem joinWith_splitOn (mark : Char) (text : List Char) :
    joinWith mark (splitOn mark text) = text := by
  induction text with
  | nil => rfl
  | cons c rest ih =>
    simp only [splitOn, pieces] at ih ⊢
    match hs : pieces (· == mark) rest with
    | [] => exact absurd hs (pieces_ne_nil _ rest)
    | [piece] =>
      rw [hs] at ih
      split <;> simp_all [joinWith]
    | piece :: next :: others =>
      rw [hs] at ih
      split <;> simp_all [joinWith]

/-- The texts before and after the first occurrence of a character. -/
def cutAt (mark : Char) : List Char → Option (List Char × List Char)
  | [] => none
  | c :: rest =>
    if c = mark then some ([], rest)
    else (cutAt mark rest).map fun (before, after) => (c :: before, after)

/-- A text in which a carriage return before a line feed is dropped. -/
def unixLines : List Char → List Char
  | [] => []
  | '\r' :: '\n' :: rest => '\n' :: unixLines rest
  | c :: rest => c :: unixLines rest

/-- Parts, joined by a separator. -/
def join (separator : String) : List String → String
  | [] => ""
  | [part] => part
  | part :: others => part ++ separator ++ join separator others

/-- A text padded on the left with spaces to a least width. -/
def padStart (width : Nat) (text : String) : String :=
  .ofList (List.replicate (width - text.length) ' ') ++ text

end Reticle.Text
