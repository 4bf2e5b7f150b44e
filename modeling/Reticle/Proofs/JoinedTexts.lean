import Reticle.Proofs.Joining
import Reticle.Proofs.RuleLines

/-!
# Rule texts after one another

After a text that leaves no bracket open, reading another text goes on as it would from nothing
read, with every line counted on and every field behind those that are there
(`readLines_eq_followedBy`). So the rule of two texts after one another is the first rule, overridden
by the second (`ofText_overridden`).
-/

namespace Reticle

/-- The field, written some lines further down. -/
def Field.shift (f : Field) (lines : Nat) : Field :=
  { f with line := f.line + lines }

/-- Shifting lines twice is shifting them once by the sum. -/
theorem Field.shift_shift (f : Field) (lines more : Nat) :
    (f.shift lines).shift more = f.shift (more + lines) := by
  unfold Field.shift
  rw [Nat.add_assoc, Nat.add_comm lines more]

namespace Rule

/-! ## Counting lines on -/

namespace Progress

/-- Progress with further progress behind it, whose lines are counted from a given line on. -/
def followedBy (p : Progress) (lines : Nat) (q : Progress) : Progress where
  fields := p.fields ++ q.fields.map (·.shift lines)
  firstMalformed := p.firstMalformed <|> q.firstMalformed.map (· + lines)
  pending := q.pending.map fun (f, depth) => (f.shift lines, depth)

/-- Following with nothing changes nothing, unless a value is still open. -/
theorem followedBy_start {p : Progress} (h : p.pending = none) (lines : Nat) :
    p.followedBy lines start = p := by
  obtain ⟨fields, malformed, pending⟩ := p
  unfold followedBy start
  simp [show pending = none from h]

/-- A field taken in the second part is taken in the whole, its lines shifted. -/
theorem take_followedBy (p q : Progress) (lines : Nat) (f : Field) (depth : Int) :
    (p.followedBy lines q).take (f.shift lines) depth = p.followedBy lines (q.take f depth) := by
  unfold take
  split
  · rfl
  · simp [followedBy]

/-- Reading one line further down does the same further down. -/
theorem readLine_followedBy (p q : Progress) (lines number : Nat) (line : List Char) :
    (p.followedBy lines q).readLine (number + lines) line =
      p.followedBy lines (q.readLine number line) := by
  have hpending : (p.followedBy lines q).pending =
      q.pending.map fun (f, depth) => (f.shift lines, depth) := rfl
  rw [readLine_eq, readLine_eq, hpending]
  cases q.pending with
  | some entry =>
    obtain ⟨f, depth⟩ := entry
    exact take_followedBy p q lines { f with text := continued f.text line } _
  | none =>
    cases lineSense line with
    | gap => rfl
    | field key value => exact take_followedBy p q lines ⟨key, number, .ofList value⟩ _
    | malformed =>
      unfold followedBy
      cases p.firstMalformed <;> cases q.firstMalformed <;> rfl

end Progress

/-- Lines that are read behind others are read as by themselves, with their numbers shifted. -/
theorem readLines_followedBy (p q : Progress) (start number : Nat) (lines : List (List Char)) :
    readLines (p.followedBy start q) (number + start) lines =
      p.followedBy start (readLines q number lines) := by
  induction lines generalizing q number with
  | nil => rfl
  | cons line rest ih =>
    rw [readLines_cons, readLines_cons, p.readLine_followedBy, Nat.add_right_comm, ih]

/-- Where no bracket is open, reading goes on as from nothing read. -/
theorem readLines_eq_followedBy {p : Progress} (h : p.pending = none) (number : Nat)
    (lines : List (List Char)) :
    readLines p number lines = p.followedBy number (readLines .start 0 lines) := by
  rw [← readLines_followedBy, Progress.followedBy_start h, Nat.zero_add]

/-! ## The rule of two texts -/

/-- Texts that are joined by a line break have the lines of both. -/
theorem rawLines_append (s t : String) :
    rawLines (s ++ "\n" ++ t) = rawLines s ++ rawLines t := by
  unfold rawLines
  have hchars : (s ++ "\n" ++ t).toList = s.toList ++ '\n' :: t.toList := by simp
  rw [hchars, Text.splitOn_append_mark]

/-- A text whose fields are all closed is followed by what the next text says, further down. -/
theorem ofText_append {s : String} (h : ∀ f ∈ (ofText s).fields, f.isOpen = false) (t : String) :
    (ofText (s ++ "\n" ++ t)).fields =
        (ofText s).fields ++ (ofText t).fields.map (·.shift (ofText s).lines.length) ∧
      (ofText (s ++ "\n" ++ t)).firstMalformed =
        ((ofText s).firstMalformed <|>
          (ofText t).firstMalformed.map (· + (ofText s).lines.length)) := by
  rw [fields_ofText] at h
  have htracks := Progress.tracks_start.readLines 0 (rawLines s)
  have hnone := htracks.pending_eq_none_iff.2 h
  simp only [fields_ofText, firstMalformed_ofText, length_lines_ofText, rawLines_append,
    readLines_append, Nat.zero_add, readLines_eq_followedBy hnone]
  refine ⟨?_, rfl⟩
  unfold Progress.followedBy Progress.allFields
  rw [hnone]
  cases (readLines .start 0 (rawLines t)).pending <;> simp

/-- A key has the field of the later text, with its lines shifted, or else that of the earlier one.
-/
theorem field?_append_shift {r s t : Rule} {lines : Nat}
    (h : r.fields = s.fields ++ t.fields.map (·.shift lines)) (key : String) :
    r.field? key = ((t.field? key).map (·.shift lines) <|> s.field? key) := by
  have hkey : (fun f : Field => f.key == key) ∘ (fun f : Field => f.shift lines) =
      fun f => f.key == key := rfl
  unfold field?
  simp only [List.findRev?_eq_find?_reverse, h, List.reverse_append, List.find?_append,
    ← List.map_reverse, List.find?_map, hkey]
  cases t.fields.reverse.find? (·.key == key) <;> rfl

/-- The rule of a text without an open bracket, a line feed and another text: for every key the
field of the second text counts, moved down by the lines of the first, or else the field of the
first. The first malformed line is that of the first text, or else that of the second, moved down
likewise. -/
theorem ofText_overridden {s : String} (h : ∀ f ∈ (ofText s).fields, f.isOpen = false)
    (t : String) :
    (∀ key, (ofText (s ++ "\n" ++ t)).field? key =
      (((ofText t).field? key).map (·.shift (ofText s).lines.length) <|> (ofText s).field? key)) ∧
    (ofText (s ++ "\n" ++ t)).firstMalformed =
      ((ofText s).firstMalformed <|>
        (ofText t).firstMalformed.map (· + (ofText s).lines.length)) := by
  obtain ⟨hfields, hmalformed⟩ := ofText_append h t
  exact ⟨field?_append_shift hfields, hmalformed⟩

/-- A text with a value over two lines and a malformed line. -/
def exampleFirst : String :=
  "max_range 2\r\ncustom_aoe [\r\n[1 0]]\r\noops\r"

/-- A text that goes on with the end of a frame and another range. -/
def exampleSecond : String :=
  "\x7d\nmax_range 5\nmore"

/-- In the two example texts together the range is the second one and the malformed line the
first. -/
theorem ofText_overridden_example :
    (∀ f ∈ (ofText exampleFirst).fields, f.isOpen = false) ∧
      (ofText (exampleFirst ++ "\n" ++ exampleSecond)).field? "max_range" =
        some ⟨"max_range", 5, "5"⟩ ∧
      (ofText (exampleFirst ++ "\n" ++ exampleSecond)).field? "custom_aoe" =
        some ⟨"custom_aoe", 1, "[ [1 0]]"⟩ ∧
      (ofText (exampleFirst ++ "\n" ++ exampleSecond)).firstMalformed = some 3 := by
  have hclosed : ∀ f ∈ (ofText exampleFirst).fields, f.isOpen = false := by decide +kernel
  obtain ⟨hfields, hmalformed⟩ := ofText_overridden hclosed exampleSecond
  rw [hfields, hfields, hmalformed]
  exact ⟨hclosed, by decide +kernel, by decide +kernel, by decide +kernel⟩

end Rule

end Reticle
