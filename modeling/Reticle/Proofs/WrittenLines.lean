import Reticle.Proofs.RuleLines

/-!
# Where fields are written

Reading gives every field the number of the line on which its key was written, whether or not its
value goes on over the next lines. So a field can be found again in the text: its line says its key,
and its value too if that is over on the line (`Field.WrittenIn`). Fields are read in the order of
their lines, and the first malformed line is a line of the text as well (`Rule.LocatedIn`).
-/

namespace Reticle

/-- A field is found in lines on the line that it has the number of. The line says its key and,
unless the value could go on over several lines, its value. -/
def Field.WrittenIn (f : Field) (lines : List (List Char)) : Prop :=
  ∃ line value, lines[f.line]? = some line ∧ Rule.lineSense line = .field f.key value ∧
    (f.key ≠ Rule.multilineKey → f.text = .ofList value)

namespace Field.WrittenIn

variable {f : Field} {lines : List (List Char)} (h : f.WrittenIn lines)
include h

/-- A field is written in lines that there are. -/
theorem line_lt : f.line < lines.length := by
  obtain ⟨line, -, hline, -⟩ := h
  exact (List.getElem?_eq_some_iff.1 hline).1

/-- A field that is written in lines is written in them when more follow. -/
theorem append (more : List (List Char)) : f.WrittenIn (lines ++ more) := by
  have hlt := h.line_lt
  obtain ⟨line, value, hline, hsense⟩ := h
  exact ⟨line, value, (List.getElem?_append_left hlt).trans hline, hsense⟩

/-- A value that can go on over several lines may be any. -/
theorem withText (hkey : f.key = Rule.multilineKey) (text : String) :
    Field.WrittenIn { f with text } lines := by
  obtain ⟨line, value, hline, hsense, -⟩ := h
  exact ⟨line, value, hline, hsense, fun hne => absurd hkey hne⟩

end Field.WrittenIn

namespace Rule

/-! ## Reading lines -/

/-- Fields are found in lines, one after the other, and so is the first malformed line. -/
structure LocatedIn (lines : List (List Char)) (fields : List Field) (firstMalformed : Option Nat) :
    Prop where
  written : ∀ f ∈ fields, f.WrittenIn lines
  ordered : fields.Pairwise (·.line < ·.line)
  malformed : ∀ n, firstMalformed = some n →
    ∃ line, lines[n]? = some line ∧ lineSense line = .malformed

namespace LocatedIn

variable {lines : List (List Char)} {fields : List Field} {firstMalformed : Option Nat}
  (h : LocatedIn lines fields firstMalformed)
include h

/-- The first malformed line is one of the lines. -/
theorem malformed_lt {n : Nat} (hn : firstMalformed = some n) : n < lines.length := by
  obtain ⟨line, hline, -⟩ := h.malformed n hn
  exact (List.getElem?_eq_some_iff.1 hline).1

/-- What is found in lines is found in them when more follow. -/
theorem append (more : List (List Char)) : LocatedIn (lines ++ more) fields firstMalformed where
  written := fun f hf => (h.written f hf).append more
  ordered := h.ordered
  malformed := fun n hn => by
    obtain ⟨line, hline, hsense⟩ := h.malformed n hn
    exact ⟨line, (List.getElem?_append_left (h.malformed_lt hn)).trans hline, hsense⟩

/-- A field on the line behind those that were read. -/
theorem snoc {f : Field} {line : List Char} (hf : f.WrittenIn (lines ++ [line]))
    (hnumber : f.line = lines.length) :
    LocatedIn (lines ++ [line]) (fields ++ [f]) firstMalformed where
  written := fun g hg => by
    rcases List.mem_append.1 hg with hg | hg
    · exact (h.written g hg).append [line]
    · rw [List.mem_singleton.1 hg]
      exact hf
  ordered := by
    refine List.pairwise_append.2 ⟨h.ordered, List.pairwise_singleton _ _, fun g hg g' hg' => ?_⟩
    rw [List.mem_singleton.1 hg', hnumber]
    exact (h.written g hg).line_lt
  malformed := (h.append [line]).malformed

end LocatedIn

/-- The last field, when its value goes on, stays where it is. -/
theorem LocatedIn.withText {lines : List (List Char)} {fields : List Field} {f : Field}
    {firstMalformed : Option Nat} (h : LocatedIn lines (fields ++ [f]) firstMalformed)
    (hkey : f.key = multilineKey) (text : String) :
    LocatedIn lines (fields ++ [{ f with text }]) firstMalformed := by
  obtain ⟨hfirst, hlast, hbelow⟩ := List.pairwise_append.1 h.ordered
  refine ⟨fun g hg => ?_, List.pairwise_append.2 ⟨hfirst, List.pairwise_singleton _ _, ?_⟩,
    h.malformed⟩
  · rcases List.mem_append.1 hg with hg | hg
    · exact h.written g (List.mem_append_left _ hg)
    · rw [List.mem_singleton.1 hg]
      exact (h.written f (by simp)).withText hkey text
  · intro g hg g' hg'
    rw [List.mem_singleton.1 hg']
    exact hbelow g hg f List.mem_cons_self

namespace Progress

/-- Taking a field adds it behind those that are complete. -/
theorem allFields_take (p : Progress) (f : Field) (depth : Int) :
    (p.take f depth).allFields = p.fields ++ [f] := by
  unfold take allFields
  split
  · rfl
  · exact List.append_nil _

/-- Taking a field marks no line. -/
theorem firstMalformed_take (p : Progress) (f : Field) (depth : Int) :
    (p.take f depth).firstMalformed = p.firstMalformed := by
  unfold take
  split <;> rfl

/-- What was read so far is found in the lines that were read. -/
def Located (p : Progress) (lines : List (List Char)) : Prop :=
  LocatedIn lines p.allFields p.firstMalformed

/-- A line more is read, and what was read is found in the lines up to it. -/
theorem Located.readLine {p : Progress} {lines : List (List Char)} (h : p.Located lines)
    (htracks : p.Tracks) (line : List Char) :
    (p.readLine lines.length line).Located (lines ++ [line]) := by
  have hmore := LocatedIn.append h [line]
  unfold Located
  rw [readLine_eq]
  cases hpending : p.pending with
  | some entry =>
    -- The line continues the field whose brackets are open; that field keeps its own line.
    obtain ⟨f, depth⟩ := entry
    have hfields : p.allFields = p.fields ++ [f] := by
      unfold allFields
      rw [hpending]
      rfl
    have hopen := (htracks.pending f depth hpending).1
    have hkey : f.key = multilineKey := by
      unfold Field.isOpen at hopen
      simp only [Bool.and_eq_true, beq_iff_eq] at hopen
      exact hopen.1.1
    rw [hfields] at hmore
    dsimp only
    rw [allFields_take, firstMalformed_take]
    exact hmore.withText hkey _
  | none =>
    have hfields : p.allFields = p.fields := by
      unfold allFields
      rw [hpending]
      exact List.append_nil _
    have hlast : (lines ++ [line])[lines.length]? = some line := List.getElem?_concat_length
    cases hsense : lineSense line with
    | gap => exact hmore
    | field key value =>
      dsimp only
      rw [allFields_take, firstMalformed_take, ← hfields]
      exact LocatedIn.snoc h ⟨line, value, hlast, hsense, fun _ => rfl⟩ rfl
    | malformed =>
      have hkept : ∀ first, Progress.allFields ⟨p.fields, first, none⟩ = p.allFields := by
        intro first
        rw [hfields]
        exact List.append_nil _
      dsimp only
      rw [hkept]
      refine ⟨hmore.written, hmore.ordered, fun n hn => ?_⟩
      cases hfirst : p.firstMalformed with
      | some m => exact hmore.malformed n (hfirst.trans (by simpa [hfirst] using hn))
      | none =>
        have hn : lines.length = n := by simpa [hfirst] using hn
        exact ⟨line, hn ▸ hlast, hsense⟩

/-- Reading more lines keeps everything located in the lines up to there. -/
theorem Located.readLines {p : Progress} {lines : List (List Char)} (h : p.Located lines)
    (htracks : p.Tracks) (more : List (List Char)) :
    (readLines p lines.length more).Located (lines ++ more) := by
  induction more generalizing p lines with
  | nil => exact (List.append_nil lines).symm ▸ h
  | cons line rest ih =>
    have hrest := ih (h.readLine htracks line) (htracks.readLine lines.length line)
    rw [List.length_append, List.append_assoc] at hrest
    exact hrest

end Progress

/-! ## Reading texts -/

/-- The fields of a rule and its first malformed line are found in the lines of its text. -/
theorem locatedIn_ofText (text : String) :
    LocatedIn (rawLines text) (ofText text).fields (ofText text).firstMalformed := by
  have hstart : Progress.start.Located [] :=
    ⟨fun _ hf => absurd hf List.not_mem_nil, List.Pairwise.nil, fun _ hn => by cases hn⟩
  rw [fields_ofText, firstMalformed_ofText]
  exact hstart.readLines Progress.tracks_start (rawLines text)

/-- Every text has a line, also the empty one. -/
theorem rawLines_ne_nil (text : String) : rawLines text ≠ [] :=
  Text.pieces_ne_nil _ _

/-- The field that counts for a key is the one that was written last. -/
theorem LocatedIn.le_line {r : Rule} {lines : List (List Char)}
    (h : LocatedIn lines r.fields r.firstMalformed) {key : String} {f : Field}
    (hf : r.field? key = some f) :
    f ∈ r.fields ∧ f.key = key ∧ ∀ g ∈ r.fields, g.key = key → g.line ≤ f.line := by
  unfold field? at hf
  rw [List.findRev?_eq_find?_reverse, List.find?_eq_some_iff_append] at hf
  obtain ⟨hkey, after, before, hreverse, hafter⟩ := hf
  have hfields : r.fields = before.reverse ++ f :: after.reverse := by
    rw [← List.reverse_reverse r.fields, hreverse]
    simp
  refine ⟨by simp [hfields], by simpa using hkey, fun g hg hgkey => ?_⟩
  have hordered := h.ordered
  rw [hfields, List.pairwise_append] at hordered
  rw [hfields, List.mem_append, List.mem_cons] at hg
  rcases hg with hg | rfl | hg
  · exact (hordered.2.2 g hg f List.mem_cons_self).le
  · exact le_rfl
  · have hother := hafter g (List.mem_reverse.1 hg)
    simp [hgkey] at hother

end Rule

end Reticle
