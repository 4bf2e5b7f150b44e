import Reticle.Proofs.BrokenValues
import Reticle.Proofs.JoinedTexts

/-!
# Coordinate lists in rules

A key with a coordinate list is a block of a rule text, on one line or broken over several, and the
offsets of its field are those of the list (`CoordinateList.WrittenAs.exists_block`). So a
coordinate list is read as it was written, and the lines behind it are read by themselves
(`ofText_coordinates`).
-/

namespace Reticle.Rule

/-! ## The line of a key -/

/-- A key as it stands in a rule: a word. -/
def IsKey (key : String) : Prop :=
  key ≠ "" ∧ ∀ c ∈ key.toList, Text.isBlank c = false

/-- A key with a value. -/
def keyLine (key : String) (value : List Char) : String :=
  key ++ " " ++ .ofList value

/-- The first line of a bracketed value is the line of a field. -/
theorem lineSense_key {key : String} (hkey : IsKey key) {value : List Char}
    (hvalue : value.head? = some '[') :
    lineSense (key.toList ++ ' ' :: value) = .field key (Text.trim value) := by
  obtain ⟨hne, hword⟩ := hkey
  obtain ⟨more, rfl⟩ := List.head?_eq_some_iff.1 hvalue
  have hbracket : Text.isBlank '[' = false := by decide
  have hend : Text.trimEnd (' ' :: '[' :: more) = ' ' :: '[' :: Text.trimEnd more := by
    simp [Text.trimEnd_cons, hbracket]
  have htrim : Text.trim (key.toList ++ ' ' :: '[' :: more) =
      key.toList ++ ' ' :: '[' :: Text.trimEnd more := by
    obtain ⟨c, rest, hchars⟩ : ∃ c rest, key.toList = c :: rest :=
      List.exists_cons_of_ne_nil (by simpa using hne)
    rw [hchars, List.cons_append, Text.trim_cons (hword c (hchars ▸ List.mem_cons_self)),
      Text.trimEnd_append (by rw [hend]; exact List.cons_ne_nil _ _), hend, List.cons_append]
  have hframe : frameLines.contains (.ofList (key.toList ++ ' ' :: '[' :: Text.trimEnd more)) =
      false := by
    -- no line of the frame has a square bracket in it
    have hplain : ∀ line ∈ frameLines, '[' ∉ line.toList := by decide
    rw [← Bool.not_eq_true, List.contains_iff_mem]
    intro hmem
    apply hplain _ hmem
    simp
  have hcut : Text.cutAt ' ' (key.toList ++ ' ' :: '[' :: Text.trimEnd more) =
      some (key.toList, '[' :: Text.trimEnd more) :=
    Text.cutAt_append (fun hmem => absurd (hword ' ' hmem) (by decide)) _
  unfold lineSense
  dsimp only
  rw [htrim, hframe, hcut, if_neg (by simp)]
  dsimp only
  rw [Text.trim_of_not_isBlank hword, String.ofList_toList, Text.trim_cons hbracket,
    Text.trim_cons hbracket, Text.trimEnd_trimEnd]

/-- The lines of a field are those of its value, the key in front of the first. -/
theorem rawLines_keyLine {key : String} (hkey : IsKey key) {value first : List Char}
    {rest : List (List Char)} (hvalue : Text.splitOn '\n' value = first :: rest) :
    rawLines (keyLine key value) = (key.toList ++ ' ' :: first) :: rest := by
  have hchars : (keyLine key value).toList = (key.toList ++ [' ']) ++ value := by
    simp [keyLine]
  have hword : '\n' ∉ key.toList ++ [' '] := by
    intro hmem
    rcases List.mem_append.1 hmem with hmem | hmem
    · exact absurd (hkey.2 _ hmem) (by decide)
    · exact absurd hmem (by decide)
  unfold rawLines
  rw [hchars]
  refine (Text.pieces_append (Text.not_cuts_of_not_mem hword) hvalue).trans ?_
  rw [List.append_assoc, List.singleton_append]

/-! ## Coordinate lists in rules -/

/-- How the value of a key is written that is a coordinate list: on one line, or broken over several
lines if the key allows it. -/
def CoordinateList.WrittenAs (l : CoordinateList) (key : String) (value : List Char) : Prop :=
  value = l.text ∨ key = multilineKey ∧ Breaks 0 l.text value

/-- A written coordinate list is a block whose value lists the offsets. -/
theorem CoordinateList.WrittenAs.exists_block {l : CoordinateList} {key : String}
    {value : List Char} (h : l.WrittenAs key value) (hkey : IsKey key) :
    ∃ (b : Block) (first : List Char) (rest : List (List Char)), b.key = key ∧
      b.WrittenIn first rest ∧ rawLines (keyLine key value) = first :: rest ∧
      pairsAfter none b.text.toList = l.offsets := by
  have hbreaks : Breaks 0 l.text value := by
    rcases h with rfl | ⟨-, h⟩
    · exact .refl 0 _
    · exact h
  have hspaces : ∀ c ∈ l.text, Text.isBlank c = true → c = ' ' := fun _ => l.eq_space_of_mem_text
  have hclosed : (0 : Int) + bracketDepth l.text ≤ 0 := by rw [l.bracketDepth_text]; rfl
  obtain ⟨first, rest, hlines, hcontinues⟩ := hbreaks.continues hspaces hclosed
  have hfirst : first.head? = some '[' := by
    have hhead := hbreaks.head?_eq.trans l.head?_text
    obtain ⟨more, rfl⟩ := List.head?_eq_some_iff.1 hhead
    obtain ⟨piece, others, -, hpieces⟩ :=
      Text.pieces_cons_of_not_cuts (· == '\n') (c := '[') (by decide) more
    rw [Text.splitOn, hpieces] at hlines
    rw [← (List.cons.inj hlines).1]
    rfl
  have hdepth : openDepth multilineKey (Text.trim first) = bracketDepth first := by
    obtain ⟨more, rfl⟩ := List.head?_eq_some_iff.1 hfirst
    rw [← bracketDepth_trim ('[' :: more), Text.trim_cons (by decide)]
    rfl
  -- A list on one line is closed there; only the key that may span lines has its brackets counted.
  have hcloses : Closes (openDepth key (Text.trim first)) (rest.map Text.trim) := by
    rcases h with rfl | ⟨rfl, -⟩
    · have hone : '\n' ∉ l.text := fun hmem => absurd (hspaces _ hmem (by decide)) (by decide)
      rw [Text.pieces_of_not_mem hone] at hlines
      obtain ⟨rfl, rfl⟩ := List.cons.inj hlines
      show openDepth key (Text.trim l.text) ≤ 0
      unfold openDepth
      rw [bracketDepth_trim, l.bracketDepth_text, ite_self]
    · have hcloses := hcontinues.closes
      rwa [Int.zero_add, ← hdepth] at hcloses
  refine ⟨⟨key, Text.trim first, rest.map Text.trim, hcloses⟩, key.toList ++ ' ' :: first, rest,
    rfl, ⟨lineSense_key hkey hfirst, rfl⟩, rawLines_keyLine hkey hlines, ?_⟩
  have htrimmed : (rest.map Text.trim).map Text.trim = rest.map Text.trim := by
    rw [List.map_map]
    exact List.map_congr_left fun line _ => Text.trim_trim line
  rw [← l.pairsAfter_text, ← pairsAfter_joinWith hbreaks hlines hcontinues hspaces, Block.text,
    toList_foldl_continued, String.toList_ofList, htrimmed]
  rfl

/-- A coordinate list is read as it was written. Parsing the line of its key, with a value that is
broken over several lines or not, gives exactly its offsets. In a text with lines before it, all of
them with closed brackets, and lines behind it, it is one field with these offsets; the lines before
are read as they are by themselves, and those behind are too, further down by the lines before them.
So they are read as they would be if the value stood on one line, but for the number of lines. -/
theorem ofText_coordinates {key : String} (hkey : IsKey key) {l : CoordinateList}
    {value : List Char} (h : l.WrittenAs key value) {before : String}
    (hbefore : ∀ f ∈ (ofText before).fields, f.isOpen = false) (after : String) :
    (ofText (keyLine key value)).offsets key = l.offsets ∧
      ∃ text, Field.offsets ⟨key, (ofText before).lines.length, text⟩ = l.offsets ∧
        (ofText (before ++ "\n" ++ (keyLine key value ++ "\n" ++ after))).fields =
          (ofText before).fields ++ ⟨key, (ofText before).lines.length, text⟩ ::
            (ofText after).fields.map
              (·.shift ((ofText before).lines.length + (value.count '\n' + 1))) ∧
        (ofText (before ++ "\n" ++ (keyLine key value ++ "\n" ++ after))).firstMalformed =
          ((ofText before).firstMalformed <|> (ofText after).firstMalformed.map
            (· + ((ofText before).lines.length + (value.count '\n' + 1)))) := by
  obtain ⟨b, first, rest, rfl, hwritten, hlines, hpairs⟩ := h.exists_block hkey
  obtain ⟨hfields, hmalformed, hclosed⟩ := ofText_of_writtenIn hwritten hlines
  have hoffsets : ∀ line, Field.offsets ⟨b.key, line, b.text⟩ = l.offsets := by
    intro line
    rw [← hpairs]
    apply offsets_of_pairs
    rw [hpairs]
    exact List.cons_ne_nil _ _
  have hlength : (ofText (keyLine b.key value)).lines.length = value.count '\n' + 1 := by
    obtain ⟨piece, others, hsplit⟩ :=
      List.exists_cons_of_ne_nil (Text.pieces_ne_nil (· == '\n') value)
    rw [length_lines_ofText, rawLines_keyLine hkey hsplit, ← Text.length_splitOn, Text.splitOn,
      hsplit]
    rfl
  obtain ⟨hafter, hafter'⟩ := ofText_append hclosed after
  -- The list is read between the lines before and after it: two joints, each of which shifts lines.
  obtain ⟨hall, hall'⟩ := ofText_append hbefore (keyLine b.key value ++ "\n" ++ after)
  refine ⟨?_, b.text, hoffsets _, ?_, ?_⟩
  · unfold offsets field?
    rw [hfields]
    simp [List.findRev?, hoffsets]
  · have hfield : Field.shift ⟨b.key, 0, b.text⟩ (ofText before).lines.length =
        ⟨b.key, (ofText before).lines.length, b.text⟩ := by
      unfold Field.shift
      rw [Nat.zero_add]
    rw [hall, hafter, hfields, hlength, List.singleton_append, List.map_cons, hfield, List.map_map]
    refine congrArg (fun fields => _ ++ (_ :: fields)) (List.map_congr_left fun f _ => ?_)
    exact f.shift_shift _ _
  · rw [hall', hafter', hmalformed, hlength]
    cases (ofText after).firstMalformed with
    | none => rfl
    | some line =>
      show (_ <|> some (line + (value.count '\n' + 1) + _)) = (_ <|> some (line + (_ + _)))
      rw [Nat.add_assoc, Nat.add_comm (value.count '\n' + 1)]

/-- The pair of one and nought, in brackets with a space. -/
def exampleStep : WrittenPair where
  row := ⟨⟨false, .ofDigits ['1'] (List.cons_ne_nil _ _) (List.all_eq_true.1 rfl)⟩,
    by decide +kernel⟩
  gap := .space
  col := ⟨⟨false, .ofDigits ['0'] (List.cons_ne_nil _ _) (List.all_eq_true.1 rfl)⟩,
    by decide +kernel⟩

/-- The pair of minus one and one half, in brackets with a comma and a space. -/
def exampleTurn : WrittenPair where
  row := ⟨⟨true, .ofDigits ['1'] (List.cons_ne_nil _ _) (List.all_eq_true.1 rfl)⟩,
    by decide +kernel⟩
  gap := .commaSpace
  col := ⟨⟨false, ⟨['0'], ['5'], List.cons_ne_nil _ _, List.all_eq_true.1 rfl,
    List.all_eq_true.1 rfl⟩⟩, by decide +kernel⟩

/-- A list of two pairs with a comma and a space between them and brackets around both. -/
def exampleList : CoordinateList where
  first := exampleStep
  more := [(PairGap.commaSpace.separator, exampleTurn)]
  outer := some (PairGap.space.separator, PairGap.space.separator)

/-- The example list over six lines, one of them blank. -/
def exampleBroken : List Char :=
  "[\r\n\t[1 0],\n\n  [-1,\n0.5]\r\n]".toList

/-- The example list is read from its six lines, and the field after it by itself. -/
theorem ofText_coordinates_example :
    IsKey multilineKey ∧ exampleList.WrittenAs multilineKey exampleBroken ∧
      (∀ f ∈ (ofText "target_mode tile").fields, f.isOpen = false) ∧
      ((ofText (keyLine multilineKey exampleBroken)).offsets multilineKey).map
          (fun o => (Number.exact o.row, Number.exact o.col)) =
        [(.finite 1, .finite 0), (.finite (-1), .finite (1 / 2))] ∧
      (ofText ("target_mode tile" ++ "\n" ++
          (keyLine multilineKey exampleBroken ++ "\n" ++ "max_range 3"))).fields.map
          (fun f => (f.key, f.line)) =
        [("target_mode", 0), ("custom_aoe", 1), ("max_range", 7)] := by
  have hkey : IsKey multilineKey := by
    have hword : multilineKey.toList.all (! Text.isBlank ·) = true := by decide +kernel
    exact ⟨by decide, fun c hc => by simpa using List.all_eq_true.1 hword c hc⟩
  have hclosed : ∀ f ∈ (ofText "target_mode tile").fields, f.isOpen = false := by decide +kernel
  have hwritten : exampleList.WrittenAs multilineKey exampleBroken := by
    have hvalue : exampleBroken = '[' :: (['\r', '\n', '\t'] ++ ('[' :: '1' :: ' ' :: '0' :: ']' ::
        ',' :: (['\n', '\n', ' ', ' '] ++ ('[' :: '-' :: '1' :: ',' :: (['\n'] ++
        ('0' :: '.' :: '5' :: ']' :: (['\r', '\n'] ++ [']']))))))) := by
      decide +kernel
    rw [hvalue]
    refine .inr ⟨rfl, .keep (.line (by decide) (List.all_eq_true.1 rfl) (by decide) ?_)⟩
    refine .keep (.keep (.keep (.keep (.keep (.keep ?_)))))
    refine .line (by decide) (List.all_eq_true.1 rfl) (by decide) ?_
    refine .keep (.keep (.keep (.keep ?_)))
    refine .line (by decide) (List.all_eq_true.1 rfl) (by decide) ?_
    refine .keep (.keep (.keep (.keep ?_)))
    exact .line (by decide) (List.all_eq_true.1 rfl) (by decide) (.keep .nil)
  obtain ⟨hoffsets, text, -, hfields, -⟩ := ofText_coordinates hkey hwritten hclosed "max_range 3"
  refine ⟨hkey, hwritten, hclosed, ?_, ?_⟩
  · rw [hoffsets]
    decide +kernel
  · rw [hfields, List.map_append, List.map_cons]
    show _ ++ (multilineKey, (ofText "target_mode tile").lines.length) :: _ = _
    decide +kernel

end Reticle.Rule
