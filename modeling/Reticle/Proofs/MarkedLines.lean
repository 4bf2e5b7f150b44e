import Reticle.Proofs.DirectionalTile
import Reticle.Proofs.SettledSessions
import Reticle.Proofs.WrittenLines

/-!
# The line of an error

Only the target mode can keep a rule from being shown. The error marks a line: that of the last
field for the target mode, the first malformed line, or the first line of all. Whichever it is, the
text has that line. A session cuts its text into lines with the line ends it gave it once, and the
rule is read with line ends given once more; both have the same lines up to blanks at their ends,
so the session marks exactly one of its lines, and it is the line that the error means
(`Session.Diagnoses`).
-/

namespace Reticle

/-! ## Words for target modes -/

namespace TargetMode

/-- No two target modes share a name. -/
theorem name_injective {m m' : TargetMode} (h : m.name = m'.name) : m = m' := by
  cases m <;> cases m' <;> first | rfl | exact absurd h (by decide)

/-- The words for a mode are its name, in any case of ASCII letters. -/
theorem ofName?_eq_some_iff {word : String} {mode : TargetMode} :
    ofName? word = some mode ↔ Text.asciiLowercase word = mode.name := by
  have hagrees : ∀ m : TargetMode,
      Text.eqIgnoringCase m.name word = true ↔ Text.asciiLowercase word = m.name := by
    intro m
    have hlower : m.name.toList.map Char.toLower = m.name.toList := by
      cases m <;> decide
    unfold Text.eqIgnoringCase Text.asciiLowercase
    rw [hlower, beq_iff_eq, ← String.toList_inj, String.toList_ofList, eq_comm]
  have hfound : ∀ entry, ((all.map fun m => (m.name, m)).find? fun entry =>
      Text.eqIgnoringCase entry.1 word) = some entry →
      entry.1 = entry.2.name ∧ Text.asciiLowercase word = entry.2.name := by
    intro entry hentry
    have hword := List.find?_some (p := fun e : String × TargetMode =>
      Text.eqIgnoringCase e.1 word) hentry
    obtain ⟨m, -, rfl⟩ := List.mem_map.1 (List.mem_of_find?_eq_some hentry)
    exact ⟨rfl, (hagrees m).1 hword⟩
  unfold ofName? lookUpWord
  constructor
  · intro hmode
    obtain ⟨entry, hentry, rfl⟩ := Option.map_eq_some_iff.1 hmode
    exact (hfound entry hentry).2
  · intro hword
    have hsome : ((all.map fun m => (m.name, m)).find? fun entry =>
        Text.eqIgnoringCase entry.1 word).isSome = true := by
      have hmem : mode ∈ all := by cases mode <;> decide
      rw [List.find?_isSome]
      exact ⟨_, List.mem_map_of_mem hmem, (hagrees mode).2 hword⟩
    obtain ⟨entry, hentry⟩ := Option.isSome_iff_exists.1 hsome
    rw [hentry, Option.map_some,
      name_injective ((hfound entry hentry).2.symm.trans hword)]

end TargetMode

/-! ## Errors of rules -/

namespace Rule

/-- The field that counts for the target mode is one text and names a known mode. -/
def NamesMode (r : Rule) : Prop :=
  ∃ f word mode, r.field? "target_mode" = some f ∧ f.value = .scalar word ∧
    TargetMode.ofName? (Text.asciiLowercase (Text.trimmed word)) = some mode

/-- The field that counts names a known mode if its text is one of four words, up to the blanks around
it and the case of ASCII letters. -/
theorem namesMode_iff_mem {r : Rule} : r.NamesMode ↔
    ∃ f word, r.field? "target_mode" = some f ∧ f.value = .scalar word ∧
      Text.asciiLowercase (Text.trimmed word) ∈ ["none", "tile", "direction", "direction8"] := by
  have hwords : ∀ word, (∃ mode, TargetMode.ofName? (Text.asciiLowercase word) = some mode) ↔
      Text.asciiLowercase word ∈ TargetMode.all.map TargetMode.name := by
    intro word
    simp only [TargetMode.ofName?_eq_some_iff, Text.asciiLowercase_asciiLowercase, List.mem_map]
    constructor
    · rintro ⟨mode, hword⟩
      exact ⟨mode, by cases mode <;> decide, hword.symm⟩
    · rintro ⟨mode, -, hword⟩
      exact ⟨mode, hword.symm⟩
  show _ ↔ ∃ f word, _ ∧ _ ∧ _ ∈ TargetMode.all.map TargetMode.name
  unfold NamesMode
  simp only [← hwords, exists_and_left]

/-- A key has a scalar when its field is written as one. -/
theorem scalar?_eq_some_iff {r : Rule} {key text : String} :
    r.scalar? key = some text ↔ ∃ f, r.field? key = some f ∧ f.value = .scalar text := by
  unfold scalar?
  cases r.field? key with
  | none => simp
  | some f => cases hvalue : f.value <;> simp [hvalue]

/-- A rule names a mode exactly when reading its target mode succeeds. -/
theorem namesMode_iff {r : Rule} : r.NamesMode ↔ ∃ mode, r.targetMode = .ok mode := by
  simp only [targetMode_eq_ok_iff]
  constructor
  · rintro ⟨f, word, mode, hf, hvalue, hmode⟩
    refine ⟨mode, _, ?_, ?_, hmode⟩
    · unfold keyword?
      rw [scalar?_eq_some_iff.2 ⟨f, hf, hvalue⟩, Option.map_some]
    · -- The empty word names no mode.
      rw [Bool.eq_false_iff]
      intro hempty
      have hnone : TargetMode.ofName? "" = none := by decide
      rw [String.isEmpty_iff.1 hempty, hnone] at hmode
      cases hmode
  · rintro ⟨mode, word, hword, -, hmode⟩
    obtain ⟨text, htext, rfl⟩ := Option.map_eq_some_iff.1 hword
    obtain ⟨f, hf, hvalue⟩ := scalar?_eq_some_iff.1 htext
    exact ⟨f, text, mode, hf, hvalue, hmode⟩

/-- Whether a mode is named depends on the fields only. -/
theorem namesMode_congr {r r' : Rule} (h : r.fields = r'.fields) : r.NamesMode ↔ r'.NamesMode := by
  unfold NamesMode field?
  rw [h]

/-- The line of a field is one of the lines of the text. -/
theorem line?_lt {r : Rule} {lines : List (List Char)}
    (h : LocatedIn lines r.fields r.firstMalformed) {key : String} {n : Nat}
    (hn : r.line? key = some n) : n < lines.length := by
  obtain ⟨f, hf, rfl⟩ := Option.map_eq_some_iff.1 hn
  exact (h.written f (h.le_line hf).1).line_lt

/-- The three reasons for which a rule has no target mode, each with the line that it marks. -/
theorem error_cases {r : Rule} {error : RenderError} (h : r.targetMode = .error error) :
    (∃ line, r.firstMalformed = some line ∧ error = .malformed line) ∨
      error = .missingMode ((r.line? "target_mode" <|> r.firstMalformed).getD 0) ∨
      ∃ word f, r.field? "target_mode" = some f ∧ error = .unsupportedMode word (some f.line) := by
  unfold targetMode at h
  split at h
  · next line _ hmalformed =>
    cases h
    exact .inl ⟨line, hmalformed, rfl⟩
  · dsimp only at h
    split at h
    · cases h
      exact .inr (.inl rfl)
    · next hword =>
      split at h
      · cases h
      · cases h
        cases hf : r.field? "target_mode" with
        | some f =>
          have hline : r.line? "target_mode" = some f.line := by
            unfold Rule.line?
            rw [hf, Option.map_some]
          exact .inr (.inr ⟨_, f, rfl, congrArg (RenderError.unsupportedMode _) hline⟩)
        | none =>
          -- Without a field the word would be empty.
          unfold keyword? scalar? at hword
          rw [hf] at hword
          exact absurd rfl hword

/-- The error of a rule marks a line of its text. -/
theorem exists_line_of_error {r : Rule} {lines : List (List Char)}
    (h : LocatedIn lines r.fields r.firstMalformed) (hne : lines ≠ []) {error : RenderError}
    (herror : r.targetMode = .error error) : ∃ n, error.line? = some n ∧ n < lines.length := by
  obtain ⟨line, hmalformed, rfl⟩ | rfl | ⟨word, f, hf, rfl⟩ := error_cases herror
  · exact ⟨line, rfl, h.malformed_lt hmalformed⟩
  · refine ⟨_, rfl, ?_⟩
    cases hline : r.line? "target_mode" with
    | some n => exact line?_lt h hline
    | none =>
      cases hmalformed : r.firstMalformed with
      | some n => exact h.malformed_lt hmalformed
      | none => exact List.length_pos_iff.2 hne
  · exact ⟨f.line, rfl, (h.written f (h.le_line hf).1).line_lt⟩

end Rule

/-! ## Outcomes of rendering -/

section Outcomes

variable {text : String} {grid : Grid} {sliders : Sliders} {options : RenderOptions}

/-- The outcome is empty for blank texts only. -/
theorem outcome_eq_empty_iff :
    (render text grid sliders options).1 = .empty ↔ Text.isBlankText text = true := by
  constructor
  · intro hempty
    by_contra hblank
    rw [render_of_not_blank hblank] at hempty
    cases hresult : ((Rule.ofText text).render grid sliders.forgetRequired options).1 <;>
      rw [hresult] at hempty <;> cases hempty
  · intro hblank
    rw [render_of_blank hblank]

/-- A text that is not blank fails exactly if its rule has no target mode. -/
theorem outcome_eq_failed_iff {error : RenderError} :
    (render text grid sliders options).1 = .failed error ↔
      ¬ Text.isBlankText text = true ∧ (Rule.ofText text).targetMode = .error error := by
  by_cases hblank : Text.isBlankText text = true
  · rw [render_of_blank hblank]
    exact ⟨fun hfailed => (by cases hfailed), fun h => absurd hblank h.1⟩
  · rw [render_of_not_blank hblank, and_iff_right hblank]
    cases hmode : (Rule.ofText text).targetMode with
    | error other =>
      have hresult : ((Rule.ofText text).render grid sliders.forgetRequired options).1 =
          .error other := by
        unfold Rule.render
        rw [hmode]
      rw [hresult]
      constructor
      · rintro ⟨⟩
        rfl
      · rintro ⟨⟩
        rfl
    | ok mode =>
      obtain ⟨rendered, hresult, -⟩ :=
        Rule.render_of_mode hmode grid sliders.forgetRequired options
      rw [hresult]
      exact ⟨fun hfailed => (by cases hfailed), fun herror => (by cases herror)⟩

end Outcomes

/-! ## Marked lines -/

/-- A line with its number, marked if it has the number of the error. -/
def annotate (marked : Option Nat) (entry : List Char × Nat) : AnnotatedLine :=
  ⟨entry.2, .ofList entry.1, marked == some entry.2⟩

/-- Of numbered lines, the one with the marked number is marked and no other. -/
theorem filter_annotate {lines : List (List Char)} {n : Nat} {line : List Char}
    (h : lines[n]? = some line) :
    (lines.zipIdx.map (annotate (some n))).filter (·.isError) = [⟨n, .ofList line, true⟩] := by
  obtain ⟨hlt, hline⟩ := List.getElem?_eq_some_iff.1 h
  have hsplit : lines = lines.take n ++ line :: lines.drop (n + 1) := by
    rw [← hline, List.getElem_cons_drop, List.take_append_drop]
  have hlength : (lines.take n).length = n := by
    rw [List.length_take]
    omega
  -- The numbers before the line are smaller than its own, and those after it larger.
  have hother : ∀ (others : List (List Char)) (first : Nat),
      first + others.length ≤ n ∨ n < first →
        ((others.zipIdx first).map (annotate (some n))).filter (·.isError) = [] := by
    intro others first hfar
    rw [List.filter_eq_nil_iff]
    intro entry hentry
    obtain ⟨⟨other, number⟩, hmem, rfl⟩ := List.mem_map.1 hentry
    have hlow := List.le_snd_of_mem_zipIdx hmem
    have hhigh := List.snd_lt_add_of_mem_zipIdx hmem
    show ¬ (some n == some number) = true
    rw [beq_iff_eq, Option.some.injEq]
    dsimp only at hlow hhigh
    omega
  rw [hsplit, List.zipIdx_append, List.zipIdx_cons, List.map_append, List.map_cons,
    List.filter_append, hother _ 0 (.inl (by omega)), List.nil_append, hlength, Nat.zero_add,
    List.filter_cons_of_pos (by simp [annotate]), hother _ (n + 1) (.inr (by omega))]
  simp [annotate]

namespace Session

/-- A session marks the line of an error: of all its lines exactly that one is flagged, and it stands
where its number says. -/
def Marks (s : Session) (error : RenderError) : Prop :=
  ∃ line, s.annotatedLines.filter (·.isError) = [line] ∧ error.line? = some line.index ∧
    s.annotatedLines[line.index]? = some line

/-- A session shows what is wrong with a text that it was given last. -/
structure Diagnoses (s : Session) (text : String) : Prop where
  /-- Nothing is shown for blank texts only. -/
  empty_iff : s.outcome = .empty ↔ Text.isBlankText text = true
  /-- Other texts fail exactly if the last field for the target mode names no mode. -/
  failed_iff : ¬ Text.isBlankText text = true →
    ((∃ error, s.outcome = .failed error) ↔ ¬ (Rule.ofText text).NamesMode)
  marks : ∀ error, s.outcome = .failed error → s.Marks error
  /-- An unknown mode is marked where the last field for the target mode was written. -/
  unsupported : ∀ word line?, s.outcome = .failed (.unsupportedMode word line?) →
    ∃ f, (Rule.ofText text).field? "target_mode" = some f ∧ line? = some f.line ∧
      f.WrittenIn (Rule.rawLines text) ∧
        ∀ g ∈ (Rule.ofText text).fields, g.key = "target_mode" → g.line ≤ f.line

/-- The text that a session holds after it was given one. -/
def heldText (text : String) : String :=
  .ofList (Text.unixLines text.toList)

/-- A text that is held is as blank as it was given. -/
theorem isBlankText_heldText (text : String) :
    Text.isBlankText (heldText text) = Text.isBlankText text := by
  unfold heldText Text.isBlankText
  rw [String.toList_ofList, Text.all_isBlank_unixLines]

/-- After an error the lines are shown with a mark on the line of the error. -/
theorem annotatedLines_of_failed {s : Session} (hne : s.text ≠ "") {error : RenderError}
    (herror : s.outcome = .failed error) :
    s.annotatedLines = (Rule.rawLines s.text).zipIdx.map (annotate error.line?) := by
  have hmarked : s.error?.bind (·.line?) = error.line? := by
    unfold error?
    rw [herror]
    rfl
  unfold annotatedLines
  rw [if_neg (by simpa using hne), hmarked]
  rfl

/-- A session whose outcome is that of its text marks the error of the text. -/
theorem marks_of_failed {s : Session} {error : RenderError} (herror : s.outcome = .failed error)
    (hmode : (Rule.ofText s.text).targetMode = .error error)
    (hblank : ¬ Text.isBlankText s.text = true) : s.Marks error := by
  have hne : s.text ≠ "" := by
    intro hempty
    rw [hempty] at hblank
    exact hblank rfl
  obtain ⟨n, hn, hlt⟩ := Rule.exists_line_of_error (Rule.locatedIn_ofText s.text)
    (Rule.rawLines_ne_nil s.text) hmode
  have hline := List.getElem?_eq_getElem hlt
  have hlines := annotatedLines_of_failed hne herror
  rw [hn] at hlines
  refine ⟨⟨n, .ofList (Rule.rawLines s.text)[n], true⟩, ?_, hn, ?_⟩
  · rw [hlines]
    exact filter_annotate hline
  · rw [hlines, List.getElem?_map, List.getElem?_zipIdx, hline]
    simp [annotate]

/-- A session that holds a text, and whose outcome is that of the text it holds, shows what is wrong
with the text. -/
theorem diagnoses_of_rendered {s : Session} {text : String} (htext : s.text = heldText text)
    {grid : Grid} {given : Sliders} {options : RenderOptions}
    (hrendered : (Reticle.render s.text grid given options).1 = s.outcome) : s.Diagnoses text := by
  have hblank : Text.isBlankText s.text = Text.isBlankText text := by
    rw [htext, isBlankText_heldText]
  have hfields : (Rule.ofText s.text).fields = (Rule.ofText text).fields := by
    obtain ⟨lines, hrule⟩ := Rule.ofText_unixLines text
    rw [htext, heldText, hrule]
  have hfield : ∀ key, (Rule.ofText s.text).field? key = (Rule.ofText text).field? key := by
    intro key
    unfold Rule.field?
    rw [hfields]
  -- What is held differs from what was given in line ends only, and has the same fields.
  refine ⟨?_, fun hne => ?_, fun error herror => ?_, fun word line? herror => ?_⟩
  · rw [← hrendered, outcome_eq_empty_iff, hblank]
  · rw [← Rule.namesMode_congr hfields, Rule.namesMode_iff]
    constructor
    · rintro ⟨error, herror⟩ ⟨mode, hmode⟩
      rw [← hrendered, outcome_eq_failed_iff, hmode] at herror
      cases herror.2
    · intro hnone
      cases hmode : (Rule.ofText s.text).targetMode with
      | error error =>
        exact ⟨error, hrendered ▸ outcome_eq_failed_iff.2 ⟨hblank ▸ hne, hmode⟩⟩
      | ok mode => exact absurd ⟨mode, hmode⟩ hnone
  · obtain ⟨hne, hmode⟩ := outcome_eq_failed_iff.1 (hrendered.trans herror)
    exact marks_of_failed herror hmode hne
  · obtain ⟨-, hmode⟩ := outcome_eq_failed_iff.1 (hrendered.trans herror)
    obtain ⟨_, -, hother⟩ | hother | ⟨_, f, hf, heq⟩ := Rule.error_cases hmode
    · cases hother
    · cases hother
    · obtain ⟨-, rfl⟩ := RenderError.unsupportedMode.inj heq
      rw [hfield] at hf
      have hlocated := Rule.locatedIn_ofText text
      obtain ⟨hmem, -, hlast⟩ := hlocated.le_line hf
      exact ⟨f, hf, rfl, hlocated.written f hmem, hlast⟩

/-! ## Runs -/

/-- The text that was given last after a change, if another one was given last before it. -/
def Change.givenText (text : String) : Change → String
  | .render text' => text'
  | _ => text

/-- The text that was given last; a session starts with the empty one. -/
def lastText (changes : List Change) : String :=
  changes.foldl Change.givenText ""

/-- Only rendering another text changes the text that a session holds. -/
theorem text_apply {s : Session} {text : String} (h : s.text = heldText text) (change : Change) :
    (s.apply change).text = heldText (change.givenText text) := by
  cases change with
  | render text' => rfl
  | setSlider name value =>
    cases hset : s.sliders.set? name value with
    | none =>
      rw [apply_setSlider_of_none hset]
      exact h
    | some result =>
      rw [apply_setSlider_of_some hset]
      exact h
  | setOptions options => exact h
  | toggleObstacle c => exact h
  | clearObstacles => exact h
  | addSample =>
    unfold apply addSample
    exact h
  | hover c =>
    unfold apply hover lookAt
    exact h
  | unhover => exact h
  | preview c => exact h
  | frame => exact h

/-- What a session holds is the text it was given last. -/
theorem text_run {s : Session} {text : String} (h : s.text = heldText text)
    (changes : List Change) :
    (s.run changes).text = heldText (changes.foldl Change.givenText text) := by
  induction changes generalizing s text with
  | nil => exact h
  | cons change rest ih => exact ih (text_apply h change)

/-- Only the target mode makes a text fail, and a failed text marks exactly one line. Whatever was
done in a session, it shows nothing exactly if the text that it was given last is blank; another
text fails exactly if its last field for the target mode is absent, is a list, or names no known
mode; and then one line is flagged, the one with the number of the error, which for an unknown mode
is the line on which that field was written. -/
theorem diagnoses_run (grid : Grid) (options : RenderOptions) (changes : List Change) :
    ((start grid options).run changes).Diagnoses (lastText changes) := by
  obtain ⟨given, -, -, hrendered⟩ := (settled_run grid options changes).rendered
  exact diagnoses_of_rendered (text_run rfl changes) (congrArg Prod.fst hrendered)

example : ((start (.ofSide 7) .standard).run
    [.render "min_range 1\ntarget_mode  Tiles \nmax_range 2"]).annotatedLines =
      [⟨0, "min_range 1", false⟩, ⟨1, "target_mode  Tiles ", true⟩, ⟨2, "max_range 2", false⟩] := by
  decide +kernel

/-- A word that no mode has is in the way only if it comes last. -/
example : (Rule.ofText "target_mode Tiles\ntarget_mode  TILE ").NamesMode := by
  rw [Rule.namesMode_iff]
  exact ⟨.tile, by decide +kernel⟩

end Session

end Reticle
