import Mathlib.Data.List.Nodup
import Reticle.Proofs.Reading
import Reticle.Proofs.RuleLines

/-!
# The layout of rule texts

A block is one field as it is written, over one line or several. A text that is laid out in blocks,
with gaps anywhere between them, is read as the fields of the blocks, one after the other
(`Rule.readLines_of_laysOut`); indentation, gaps and line ends leave no trace but line numbers. With
one block for a key, the order of the blocks does not show either. And nothing but an error looks at
line numbers, so texts with the same blocks are rendered alike (`render_of_laysOut`).
-/

namespace Reticle

/-! ## Blocks -/

namespace Rule

/-- Open brackets are closed by exactly the last of some lines. -/
def Closes : Int → List (List Char) → Prop
  | depth, [] => depth ≤ 0
  | depth, line :: lines => 0 < depth ∧ Closes (depth + bracketDepth line) lines

instance decidableCloses : ∀ depth lines, Decidable (Closes depth lines)
  | depth, [] => inferInstanceAs (Decidable (depth ≤ 0))
  | depth, line :: lines =>
    have := decidableCloses (depth + bracketDepth line) lines
    inferInstanceAs (Decidable (0 < depth ∧ Closes (depth + bracketDepth line) lines))

end Rule

/-- A field as it is written. -/
structure Block where
  key : String
  /-- The value on the line of the key. -/
  value : List Char
  /-- The lines on which the value goes on, without the blanks at their ends. -/
  more : List (List Char)
  closes : Rule.Closes (Rule.openDepth key value) more
deriving DecidableEq

namespace Block

/-- The value of the field that a block is read as. -/
def text (b : Block) : String :=
  b.more.foldl Rule.continued (.ofList b.value)

/-- A block is written in a first line with its key and further lines, all of them with any blanks
at their ends. -/
def WrittenIn (b : Block) (first : List Char) (rest : List (List Char)) : Prop :=
  Rule.lineSense first = .field b.key b.value ∧ rest.map Text.trim = b.more

instance (b : Block) (first : List Char) (rest : List (List Char)) :
    Decidable (b.WrittenIn first rest) :=
  inferInstanceAs (Decidable (_ ∧ _))

end Block

/-- Lines in which blocks are written one after the other, with gaps anywhere between them, before
the first and after the last. -/
inductive LaysOut : List Block → List (List Char) → Prop
  | nil : LaysOut [] []
  | gap {blocks : List Block} {line : List Char} {lines : List (List Char)} :
    Rule.lineSense line = .gap → LaysOut blocks lines → LaysOut blocks (line :: lines)
  | block {b : Block} {blocks : List Block} {first : List Char} (rest : List (List Char))
      {lines : List (List Char)} :
    b.WrittenIn first rest → LaysOut blocks lines → LaysOut (b :: blocks) (first :: (rest ++ lines))

/-- A block on one line is laid out in front of others. -/
theorem LaysOut.line {b : Block} {blocks : List Block} {first : List Char}
    {lines : List (List Char)} (hb : b.WrittenIn first []) (h : LaysOut blocks lines) :
    LaysOut (b :: blocks) (first :: lines) :=
  .block [] hb h

/-! ## Reading blocks -/

namespace Rule

namespace Progress

/-- Progress with further complete fields. -/
def adding (p : Progress) (fields : List Field) : Progress :=
  { p with fields := p.fields ++ fields }

/-- Adding no fields changes nothing. -/
theorem adding_nil (p : Progress) : p.adding [] = p := by
  unfold adding
  rw [List.append_nil]

/-- Fields may be added in parts. -/
theorem adding_adding (p : Progress) (fields others : List Field) :
    (p.adding fields).adding others = p.adding (fields ++ others) := by
  unfold adding
  rw [List.append_assoc]

/-- A field whose brackets are closed is complete with its first line. -/
theorem take_of_closed {p : Progress} (hp : p.pending = none) (f : Field) {depth : Int}
    (h : depth ≤ 0) : p.take f depth = p.adding [f] := by
  unfold take adding
  rw [if_neg (Int.not_lt.2 h), hp]

/-- A line after a field with open brackets continues its value. -/
theorem readLine_take {p : Progress} {f : Field} {depth : Int} (h : 0 < depth) (number : Nat)
    (line : List Char) :
    (p.take f depth).readLine number line =
      p.take { f with text := continued f.text line } (depth + bracketDepth (Text.trim line)) := by
  have htake : p.take f depth = { p with pending := some (f, depth) } := if_pos h
  rw [readLine_eq, htake]
  rfl

end Progress

/-- A field that is taken with open brackets is complete after the lines that close them. -/
theorem readLines_take {p : Progress} (hp : p.pending = none) {rest : List (List Char)}
    {f : Field} {depth : Int} (h : Closes depth (rest.map Text.trim)) (number : Nat) :
    readLines (p.take f depth) number rest =
      p.adding [{ f with text := rest.foldl continued f.text }] := by
  induction rest generalizing f depth number with
  | nil => exact Progress.take_of_closed hp f h
  | cons line rest ih =>
    obtain ⟨hpos, hrest⟩ := h
    rw [readLines_cons, Progress.readLine_take hpos, ih hrest, List.foldl_cons]

/-- Blanks around the lines of a value make no difference to it. -/
theorem foldl_continued_trim (text : String) (lines : List (List Char)) :
    (lines.map Text.trim).foldl continued text = lines.foldl continued text := by
  rw [List.foldl_map]
  congr 1
  funext text line
  unfold continued
  rw [Text.trim_trim]

/-- A block is read as one field with its key, its first line and its text. -/
theorem readLines_of_writtenIn {p : Progress} (hp : p.pending = none) {b : Block}
    {first : List Char} {rest : List (List Char)} (h : b.WrittenIn first rest) (number : Nat) :
    readLines p number (first :: rest) = p.adding [⟨b.key, number, b.text⟩] := by
  obtain ⟨hfirst, hrest⟩ := h
  have hcloses := b.closes
  rw [← hrest] at hcloses
  rw [readLines_cons, Progress.readLine_of_field hp hfirst, readLines_take hp hcloses, Block.text,
    ← hrest, foldl_continued_trim]

/-- The rule of a block by itself is its field. -/
theorem ofText_of_writtenIn {b : Block} {first : List Char} {rest : List (List Char)}
    (h : b.WrittenIn first rest) {text : String} (hlines : rawLines text = first :: rest) :
    (ofText text).fields = [⟨b.key, 0, b.text⟩] ∧ (ofText text).firstMalformed = none ∧
      ∀ f ∈ (ofText text).fields, f.isOpen = false := by
  have hread : readLines .start 0 (rawLines text) = Progress.start.adding [⟨b.key, 0, b.text⟩] := by
    rw [hlines, readLines_of_writtenIn rfl h]
  have htracks := Progress.tracks_start.readLines 0 (rawLines text)
  rw [fields_ofText, firstMalformed_ofText]
  refine ⟨by rw [hread]; rfl, by rw [hread]; rfl, htracks.pending_eq_none_iff.1 ?_⟩
  rw [hread]
  rfl

/-- What counts of fields: their keys and values. -/
def written (fields : List Field) : List (String × String) :=
  fields.map fun f => (f.key, f.text)

/-- Lines in which blocks are laid out are read as the fields of the blocks, in their order. -/
theorem readLines_of_laysOut {blocks : List Block} {lines : List (List Char)}
    (h : LaysOut blocks lines) {p : Progress} (hp : p.pending = none) (number : Nat) :
    ∃ fields, readLines p number lines = p.adding fields ∧
      written fields = blocks.map fun b => (b.key, b.text) := by
  induction h generalizing p number with
  | nil => exact ⟨[], p.adding_nil.symm, rfl⟩
  | gap hline _ ih =>
    rw [readLines_cons, Progress.readLine_of_gap hp hline]
    exact ih hp _
  | @block b blocks first rest lines hb _ ih =>
    have hadded : (p.adding [⟨b.key, number, b.text⟩]).pending = none := hp
    obtain ⟨fields, hread, hfields⟩ := ih hadded (number + (first :: rest).length)
    refine ⟨⟨b.key, number, b.text⟩ :: fields, ?_, ?_⟩
    · rw [← List.cons_append, readLines_append, readLines_of_writtenIn hp hb, hread,
        Progress.adding_adding]
      rfl
    · rw [List.map_cons, ← hfields]
      rfl

/-- A text that is laid out in blocks has their fields and no malformed line. -/
theorem ofText_of_laysOut {blocks : List Block} {text : String}
    (h : LaysOut blocks (rawLines text)) :
    written (ofText text).fields = blocks.map (fun b => (b.key, b.text)) ∧
      (ofText text).firstMalformed = none := by
  obtain ⟨fields, hread, hfields⟩ := readLines_of_laysOut h (p := .start) rfl 0
  rw [fields_ofText, firstMalformed_ofText, hread]
  refine ⟨?_, rfl⟩
  rw [← hfields]
  exact congrArg written (List.append_nil fields)

/-! ## Fields in another order -/

/-- Where no key occurs twice, a key has the text that is written with it. -/
theorem text_field?_eq_some_iff {r : Rule} (h : (r.fields.map (·.key)).Nodup) {key text : String} :
    (r.field? key).map (·.text) = some text ↔ (key, text) ∈ written r.fields := by
  unfold field? written
  rw [List.findRev?_eq_find?_reverse, Option.map_eq_some_iff, List.mem_map]
  constructor
  · rintro ⟨f, hf, rfl⟩
    have hkey : f.key = key := by simpa using List.find?_some hf
    exact ⟨f, List.mem_reverse.1 (List.mem_of_find?_eq_some hf), by rw [hkey]⟩
  · rintro ⟨f, hf, hwritten⟩
    obtain ⟨rfl, rfl⟩ := Prod.mk.inj hwritten
    have hsome : (r.fields.reverse.find? (·.key == f.key)).isSome = true := by
      rw [List.find?_isSome]
      exact ⟨f, List.mem_reverse.2 hf, beq_self_eq_true _⟩
    obtain ⟨g, hg⟩ := Option.isSome_iff_exists.1 hsome
    have hkey : g.key = f.key := by simpa using List.find?_some hg
    have hsame : g = f :=
      List.inj_on_of_nodup_map h (List.mem_reverse.1 (List.mem_of_find?_eq_some hg)) hf hkey
    exact ⟨g, hg, by rw [hsame]⟩

/-- When no key is repeated, the order of the fields does not matter to any key. -/
theorem sameFields_of_written_perm {r r' : Rule} (hperm : (written r.fields).Perm (written r'.fields))
    (hkeys : (r.fields.map (·.key)).Nodup) : r.SameFields r' := by
  have hmap : ∀ r : Rule, (written r.fields).map Prod.fst = r.fields.map (·.key) := by
    intro r
    unfold written
    rw [List.map_map]
    rfl
  have hkeys' : (r'.fields.map (·.key)).Nodup := by
    rw [← hmap] at hkeys ⊢
    exact (hperm.map Prod.fst).nodup_iff.1 hkeys
  intro key
  apply Option.ext
  intro text
  rw [text_field?_eq_some_iff hkeys, text_field?_eq_some_iff hkeys', hperm.mem_iff]

end Rule

/-! ## Errors of the same kind -/

/-- Two errors differ at most in the line that they mark. -/
def RenderError.SameKind : RenderError → RenderError → Prop
  | malformed _, malformed _ => True
  | missingMode _, missingMode _ => True
  | unsupportedMode mode _, unsupportedMode mode' _ => mode = mode'
  | _, _ => False

/-- Two outcomes differ at most in the line that an error marks. -/
def Outcome.SameUpToLine : Outcome → Outcome → Prop
  | empty, empty => True
  | failed error, failed error' => error.SameKind error'
  | ready rendered, ready rendered' => rendered = rendered'
  | _, _ => False

/-- An error is of its own kind. -/
theorem RenderError.SameKind.refl (error : RenderError) : error.SameKind error := by
  cases error with
  | malformed line => trivial
  | missingMode line => trivial
  | unsupportedMode mode line => rfl

/-- An outcome is the same as itself. -/
theorem Outcome.SameUpToLine.refl (outcome : Outcome) : outcome.SameUpToLine outcome := by
  cases outcome with
  | empty => trivial
  | failed error => exact RenderError.SameKind.refl error
  | ready rendered => rfl

/-- Without a malformed line the target mode is what its field says, and an error on the line of
that field if it says nothing that is known. -/
theorem Rule.targetMode_of_no_malformed {r : Rule} (h : r.firstMalformed = none) :
    r.targetMode =
      if ((r.keyword? "target_mode").getD "").isEmpty then
        .error (.missingMode ((r.line? "target_mode").getD 0))
      else
        match TargetMode.ofName? ((r.keyword? "target_mode").getD "") with
        | some mode => .ok mode
        | none =>
          .error (.unsupportedMode ((r.keyword? "target_mode").getD "") (r.line? "target_mode")) := by
  unfold targetMode
  rw [h]
  cases r.isEmpty <;> cases r.line? "target_mode" <;> rfl

/-- Rules with the same fields and no malformed line have the same target mode, or fail for the same
reason. -/
theorem Rule.SameFields.targetMode {r r' : Rule} (h : r.SameFields r')
    (hr : r.firstMalformed = none) (hr' : r'.firstMalformed = none) :
    r.targetMode = r'.targetMode ∨ ∃ error error', r.targetMode = .error error ∧
      r'.targetMode = .error error' ∧ error.SameKind error' := by
  rw [targetMode_of_no_malformed hr, targetMode_of_no_malformed hr', (h.sameField _).keyword?_eq]
  split
  · exact .inr ⟨_, _, rfl, rfl, trivial⟩
  · split
    · exact .inl rfl
    · exact .inr ⟨_, _, rfl, rfl, rfl⟩

/-! ## Blank texts -/

/-- A layout of some blocks has a line with a field on it. -/
theorem LaysOut.exists_field {blocks : List Block} {lines : List (List Char)}
    (h : LaysOut blocks lines) (hne : blocks ≠ []) :
    ∃ line ∈ lines, ∃ key value, Rule.lineSense line = .field key value := by
  induction h with
  | nil => exact absurd rfl hne
  | gap _ _ ih =>
    obtain ⟨line, hline, hfield⟩ := ih hne
    exact ⟨line, List.mem_cons_of_mem _ hline, hfield⟩
  | block _ hb _ _ => exact ⟨_, List.mem_cons_self, _, _, hb.1⟩

/-- A blank line is a gap. -/
theorem Rule.lineSense_of_blank {line : List Char} (h : ∀ c ∈ line, Text.isBlank c = true) :
    lineSense line = .gap := by
  unfold lineSense
  rw [Text.trim_of_blank h]
  rfl

/-- A text with a block is not blank. -/
theorem LaysOut.not_isBlankText {blocks : List Block} {text : String}
    (h : LaysOut blocks (Rule.rawLines text)) (hne : blocks ≠ []) :
    ¬ Text.isBlankText text = true := by
  intro hblank
  obtain ⟨line, hline, key, value, hfield⟩ := h.exists_field hne
  rw [Rule.lineSense_of_blank fun c hc =>
    List.all_eq_true.1 hblank c (Text.mem_of_mem_pieces hline hc)] at hfield
  cases hfield

/-! ## Rendering -/

/-- Equal registries resolve every name alike. -/
theorem Sliders.congruent_eq : Congruent Eq fun _ => True := by
  apply congruent_of_resolve
  rintro name s _ rfl
  exact ⟨rfl, rfl⟩

/-- The same blocks in any order, with one block for a key, are read as the same fields. -/
theorem Rule.sameFields_of_laysOut {blocks blocks' : List Block} {text text' : String}
    (h : LaysOut blocks (rawLines text)) (h' : LaysOut blocks' (rawLines text'))
    (hperm : blocks.Perm blocks') (hkeys : (blocks.map (·.key)).Nodup) :
    (ofText text).SameFields (ofText text') := by
  have hwritten := (ofText_of_laysOut h).1
  apply sameFields_of_written_perm
  · rw [hwritten, (ofText_of_laysOut h').1]
    exact hperm.map _
  · have hsame := congrArg (List.map Prod.fst) hwritten
    unfold written at hsame
    rw [List.map_map, List.map_map] at hsame
    exact hsame ▸ hkeys

/-- The layout of a rule text does not change what it means. Two texts that are laid out in the same
blocks, in any order, with one block for a key, are rendered alike: with the same target mode,
scenario, summary and warnings, or with errors of the same kind, which can mark other lines; and with
the same sliders afterwards. A frame stands around blocks or between them: where there is no block,
it makes a rule without a target mode of an empty text, so both texts have to be blank, or none. -/
theorem render_of_laysOut {blocks blocks' : List Block} {text text' : String}
    (h : LaysOut blocks (Rule.rawLines text)) (h' : LaysOut blocks' (Rule.rawLines text'))
    (hperm : blocks.Perm blocks') (hkeys : (blocks.map (·.key)).Nodup)
    (hempty : blocks = [] → Text.isBlankText text = Text.isBlankText text') (grid : Grid)
    (sliders : Sliders) (options : RenderOptions) :
    (render text grid sliders options).1.SameUpToLine (render text' grid sliders options).1 ∧
      (render text grid sliders options).2 = (render text' grid sliders options).2 := by
  have hfields := Rule.sameFields_of_laysOut h h' hperm hkeys
  have hblank : Text.isBlankText text = Text.isBlankText text' := by
    by_cases hne : blocks = []
    · exact hempty hne
    · have hne' : blocks' ≠ [] := fun hnil => hne (List.perm_nil.1 (hnil ▸ hperm))
      rw [Bool.eq_false_iff.2 (h.not_isBlankText hne), Bool.eq_false_iff.2 (h'.not_isBlankText hne')]
  -- Either both texts name a target mode or both fail, with errors that differ in the line only.
  rcases hfields.targetMode (Rule.ofText_of_laysOut h).2 (Rule.ofText_of_laysOut h').2 with
    hmode | ⟨error, error', he, he', hkind⟩
  · obtain ⟨houtcome, hsliders⟩ := blind_render_of_sameFields Sliders.congruent_eq hblank hfields
      hmode grid options trivial (rfl : sliders.forgetRequired = sliders.forgetRequired)
    rw [houtcome]
    exact ⟨.refl _, hsliders⟩
  · by_cases hnone : Text.isBlankText text = true
    · rw [render_of_blank hnone, render_of_blank (hblank ▸ hnone)]
      exact ⟨trivial, rfl⟩
    · rw [render_of_not_blank hnone, render_of_not_blank (hblank ▸ hnone)]
      unfold Rule.render
      rw [he, he']
      exact ⟨hkind, rfl⟩

/-- The blocks of a rule with an area over two lines. -/
def exampleBlocks : List Block :=
  [⟨"target_mode", "tile".toList, [], by decide⟩,
    ⟨"max_range", "3".toList, [], by decide⟩,
    ⟨"custom_aoe", "[".toList, ["[1 0]]".toList], by decide +kernel⟩]

/-- The example rule as it is usually written. -/
def examplePlain : String :=
  "target_mode tile\nmax_range 3\ncustom_aoe [\n[1 0]]"

/-- The example rule in a frame, in another order, indented and with carriage returns. -/
def exampleFramed : String :=
  "target \x7b\r\n  custom_aoe  [ \r\n\t[1 0]]\r\n\r\n  max_range 3\r\n\x7d\r\ntarget_mode tile "

/-- The example rule is read as other fields in its two layouts, but is rendered alike. -/
theorem render_of_laysOut_example :
    (Rule.ofText examplePlain).fields ≠ (Rule.ofText exampleFramed).fields ∧
      (render examplePlain (.ofSide 9) .empty .standard).1.SameUpToLine
        (render exampleFramed (.ofSide 9) .empty .standard).1 ∧
      (render examplePlain (.ofSide 9) .empty .standard).2 =
        (render exampleFramed (.ofSide 9) .empty .standard).2 := by
  have hplain : LaysOut exampleBlocks (Rule.rawLines examplePlain) := by
    have hlines : Rule.rawLines examplePlain =
        ["target_mode tile".toList, "max_range 3".toList, "custom_aoe [".toList,
          "[1 0]]".toList] := by
      decide +kernel
    rw [hlines]
    refine .line (by decide +kernel) (.line (by decide +kernel) ?_)
    exact .block ["[1 0]]".toList] (by decide +kernel) .nil
  have hframed : LaysOut exampleBlocks.reverse (Rule.rawLines exampleFramed) := by
    have hlines : Rule.rawLines exampleFramed =
        ["target \x7b\r".toList, "  custom_aoe  [ \r".toList, "\t[1 0]]\r".toList, "\r".toList,
          "  max_range 3\r".toList, "\x7d\r".toList, "target_mode tile ".toList] := by
      decide +kernel
    rw [hlines]
    refine .gap (by decide +kernel) (.block ["\t[1 0]]\r".toList] (by decide +kernel) ?_)
    refine .gap (by decide +kernel) (.line (by decide +kernel) ?_)
    exact .gap (by decide +kernel) (.line (by decide +kernel) .nil)
  refine ⟨by decide +kernel, ?_⟩
  exact render_of_laysOut hplain hframed exampleBlocks.reverse_perm.symm (by decide)
    (fun h => nomatch h) _ _ _

end Reticle
