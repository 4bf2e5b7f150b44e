import Reticle.Text.CaseTable

/-!
# Lower case

`lowercase` is the full lower-case mapping of a text: every character is replaced by its simple
lower-case form, with two exceptions. A capital I with a dot above becomes an i followed by a
combining dot, and a capital sigma becomes a final sigma at the end of a word.
-/

namespace Reticle.Text

/-- Whether a character lies in one of the ranges. -/
def inRanges (ranges : List (Nat × Nat)) (c : Char) : Bool :=
  ranges.any fun (first, last) => first ≤ c.toNat && c.toNat ≤ last

/-- Whether a character is a letter with a case. -/
def isCased (c : Char) : Bool :=
  inRanges casedRanges c

/-- Whether a character does not interrupt a word's letters. -/
def isCaseIgnorable (c : Char) : Bool :=
  inRanges caseIgnorableRanges c

/-- Whether the first character that is not ignorable is a cased letter. -/
def startsCased (text : List Char) : Bool :=
  (text.dropWhile isCaseIgnorable).head?.any isCased

/-- The lower-case form of a character outside ASCII. -/
def simpleLower (c : Char) : Char :=
  let n := c.toNat
  match lowerRuns.find? fun r => r.first ≤ n && n ≤ r.last && (n - r.first) % r.spacing == 0 with
  | some r => Char.ofNat (n + r.offset).toNat
  | none => c

/-- The lower-case form of a text, given the characters before it in reverse order. -/
def lowercaseAfter (before : List Char) : List Char → List Char
  | [] => []
  | c :: rest =>
    let lower :=
      if c.toNat < 0x80 then [c.toLower]
      else if c = '\u0130' then ['i', '\u0307']
      else if c = '\u03A3' then
        [if startsCased before && !startsCased rest then '\u03C2' else '\u03C3']
      else [simpleLower c]
    lower ++ lowercaseAfter (c :: before) rest

/-- The lower-case form of a string. -/
def lowercase (s : String) : String :=
  .ofList (lowercaseAfter [] s.toList)

/-- The lower-case form of a string in ASCII letters; all other characters stay. -/
def asciiLowercase (s : String) : String :=
  .ofList (s.toList.map Char.toLower)

/-- Whether two strings agree up to the case of ASCII letters. -/
def eqIgnoringCase (s t : String) : Bool :=
  s.toList.map Char.toLower == t.toList.map Char.toLower

/-- What is no capital letter of ASCII is its own lower case. -/
theorem toLower_of_not_capital {c : Char} (h : ¬ (c.val ≥ 'A'.val ∧ c.val ≤ 'Z'.val)) :
    c.toLower = c := by
  delta Char.toLower
  exact dif_neg h

/-- A letter in lower case stays as it is. -/
theorem toLower_toLower (c : Char) : c.toLower.toLower = c.toLower := by
  by_cases hupper : c.val ≥ 'A'.val ∧ c.val ≤ 'Z'.val
  · have hval : c.toLower.val = c.val + ('a'.val - 'A'.val) := by
      delta Char.toLower
      rw [dif_pos hupper]
    refine toLower_of_not_capital ?_
    rintro ⟨-, hle⟩
    have hlow := UInt32.le_iff_toNat_le.1 hupper.1
    have hhigh := UInt32.le_iff_toNat_le.1 hupper.2
    rw [hval, UInt32.le_iff_toNat_le, UInt32.toNat_add] at hle
    simp at hle hlow hhigh
    omega
  · rw [toLower_of_not_capital hupper, toLower_of_not_capital hupper]

/-- Lower case is lower case already. -/
theorem asciiLowercase_asciiLowercase (s : String) :
    asciiLowercase (asciiLowercase s) = asciiLowercase s := by
  unfold asciiLowercase
  rw [String.toList_ofList, List.map_map]
  exact congrArg _ (List.map_congr_left fun c _ => toLower_toLower c)

/-- A character whose ASCII lower case lies in ASCII lies there itself. -/
theorem toNat_lt_of_toLower {c : Char} (h : c.toLower.toNat < 0x80) : c.toNat < 0x80 := by
  by_cases hupper : c.val ≥ 'A'.val ∧ c.val ≤ 'Z'.val
  · have hle : c.toNat ≤ 90 := UInt32.le_iff_toNat_le.1 hupper.2
    omega
  · rwa [toLower_of_not_capital hupper] at h

/-- In ASCII the full lower case is the ASCII lower case. -/
theorem lowercaseAfter_of_ascii {before text : List Char} (h : ∀ c ∈ text, c.toNat < 0x80) :
    lowercaseAfter before text = text.map Char.toLower := by
  induction text generalizing before with
  | nil => rfl
  | cons c rest ih =>
    simp [lowercaseAfter, h c List.mem_cons_self,
      ih fun d hd => h d (List.mem_cons_of_mem _ hd)]

end Reticle.Text
