import Mathlib.Data.List.TakeWhile
import Reticle.Formula.Token

/-!
# How texts are cut into tokens

`Lexes` says how a text is written as tokens: blanks anywhere between them, maximal runs of digits
and points for numbers, two stars for one power sign, and no two equal signs without a gap. The
tokenizer walks the text with the run of digits and points that it is in the middle of. With that
run put back in front of the rest, it finds the tokens that `Lexes` allows and no others
(`tokenize_eq_ok_iff`).
-/

namespace Reticle

/-- A sequence of steps succeeds when each of them does. -/
theorem exists_of_bind_eq_ok {ε α β : Type} {x : Except ε α} {f : α → Except ε β} {b : β}
    (h : x >>= f = .ok b) : ∃ a, x = .ok a ∧ f a = .ok b := by
  cases x with
  | error error => cases h
  | ok a => exact ⟨a, rfl, h⟩

/-! ## Decimals -/

namespace Number

/-- A text that reads as one decimal number, with the double nearest to it: digits with at most one
point among or around them, and at least one digit. -/
inductive IsDecimal : List Char → Float → Prop
  | whole {digits : List Char} (hne : digits ≠ []) (hdigits : ∀ c ∈ digits, c.isDigit = true) :
    IsDecimal digits (Decimal.toFloat ⟨digits, [], 0⟩)
  | point {whole fraction : List Char} (hne : whole ≠ [] ∨ fraction ≠ [])
    (hwhole : ∀ c ∈ whole, c.isDigit = true) (hfraction : ∀ c ∈ fraction, c.isDigit = true) :
    IsDecimal (whole ++ '.' :: fraction) (Decimal.toFloat ⟨whole, fraction, 0⟩)

/-- A run of digits is taken whole when no digit follows it. -/
theorem takeWhile_isDigit_append {digits : List Char} (hd : ∀ c ∈ digits, c.isDigit = true)
    (rest : List Char) (hr : ∀ c ∈ rest.head?, c.isDigit = false) :
    (digits ++ rest).takeWhile Char.isDigit = digits ∧
      (digits ++ rest).dropWhile Char.isDigit = rest := by
  rw [List.takeWhile_append_of_pos hd, List.dropWhile_append_of_pos hd]
  cases rest with
  | nil => simp
  | cons c rest =>
    have hc : c.isDigit = false := hr c rfl
    simp [hc]

/-- A decimal is read as the double that it stands for. -/
theorem readPlain_of_isDecimal {text : List Char} {value : Float} (h : IsDecimal text value) :
    readPlain text = some value := by
  cases h with
  | whole hne hdigits =>
    have hspan := takeWhile_isDigit_append hdigits [] (by simp)
    rw [List.append_nil] at hspan
    simp [readPlain, scanDecimal, hspan, hne]
  | @point whole fraction hne hwhole hfraction =>
    have hpoint : ∀ c ∈ ('.' :: fraction).head?, c.isDigit = false := by
      rintro c hc
      obtain rfl := Option.some.inj hc
      decide
    have hspan := takeWhile_isDigit_append hwhole _ hpoint
    have hafter := takeWhile_isDigit_append hfraction [] (by simp)
    rw [List.append_nil] at hafter
    have hsome : (whole.isEmpty && fraction.isEmpty) = false := by
      rcases hne with hne | hne <;> simp [hne]
    simp [readPlain, scanDecimal, hspan, hafter, hsome]

/-- Every text starts with a run of digits, perhaps an empty one. -/
theorem exists_isDigit_append (text : List Char) :
    ∃ digits rest, text = digits ++ rest ∧ (∀ c ∈ digits, c.isDigit = true) ∧
      ∀ c ∈ rest.head?, c.isDigit = false := by
  refine ⟨text.takeWhile Char.isDigit, text.dropWhile Char.isDigit,
    List.takeWhile_append_dropWhile.symm, fun c hc => List.mem_takeWhile_imp hc, fun c hc => ?_⟩
  have hnot := List.head?_dropWhile_not Char.isDigit text
  rw [hc] at hnot
  simpa using hnot

/-- Nothing but decimals is read as a plain number. -/
theorem isDecimal_of_readPlain {text : List Char} {value : Float} (h : readPlain text = some value) :
    IsDecimal text value := by
  obtain ⟨whole, rest, rfl, hwhole, hrest⟩ := exists_isDigit_append text
  have hspan := takeWhile_isDigit_append hwhole _ hrest
  simp only [readPlain, scanDecimal, hspan.1, hspan.2] at h
  rcases rest with _ | ⟨c, after⟩
  · by_cases hne : whole = []
    · simp [hne] at h
    · have hvalue : Decimal.toFloat ⟨whole, [], 0⟩ = value := by simpa [hne] using h
      rw [List.append_nil, ← hvalue]
      exact .whole hne hwhole
  · by_cases hc : c = '.'
    · subst hc
      obtain ⟨fraction, more, rfl, hfraction, hmore⟩ := exists_isDigit_append after
      have hinner := takeWhile_isDigit_append hfraction _ hmore
      simp only [hinner.1, hinner.2] at h
      by_cases hne : whole = [] ∧ fraction = []
      · simp [hne] at h
      · rcases more with _ | ⟨d, more⟩
        · have hvalue : Decimal.toFloat ⟨whole, fraction, 0⟩ = value := by simpa [hne] using h
          rw [List.append_nil, ← hvalue]
          exact .point (not_and_or.1 hne) hwhole hfraction
        · simp [hne] at h
    · by_cases hne : whole = [] <;> simp [hc, hne] at h

end Number

namespace Formula

/-! ## Texts and tokens -/

/-- How a text is written as tokens. -/
inductive Lexes : List Char → List Token → Prop
  | nil : Lexes [] []
  | blank {c : Char} {rest : List Char} {tokens : List Token} (hc : Text.isBlank c = true)
    (h : Lexes rest tokens) : Lexes (c :: rest) tokens
  /-- A number is a whole run of digits and points. -/
  | number {run rest : List Char} {value : Float} {tokens : List Token}
    (hrun : ∀ c ∈ run, isNumberChar c = true) (hrest : ∀ c ∈ rest.head?, isNumberChar c = false)
    (hvalue : Number.IsDecimal run value) (h : Lexes rest tokens) :
    Lexes (run ++ rest) (.number value :: tokens)
  | power {rest : List Char} {tokens : List Token} (h : Lexes rest tokens) :
    Lexes ('*' :: '*' :: rest) (.power :: tokens)
  /-- Two stars are never two tokens, and two equal signs need a gap. -/
  | single {c : Char} {token : Token} {rest : List Char} {tokens : List Token}
    (htoken : Token.ofChar? c = some token)
    (hrest : c = '+' ∨ c = '-' ∨ c = '*' → rest.head? ≠ some c) (h : Lexes rest tokens) :
    Lexes (c :: rest) (token :: tokens)

/-- Blanks are no part of a number. -/
theorem isNumberChar_of_isBlank {c : Char} (h : Text.isBlank c = true) :
    isNumberChar c = false := by
  by_contra hc
  rw [Bool.not_eq_false] at hc
  simp only [isNumberChar, Char.isDigit, Bool.or_eq_true, Bool.and_eq_true, decide_eq_true_eq,
    beq_iff_eq] at hc
  rcases hc with ⟨hlow, hhigh⟩ | rfl
  · have hlow : 48 ≤ c.toNat := UInt32.le_iff_toNat_le.1 hlow
    have hhigh : c.toNat ≤ 57 := UInt32.le_iff_toNat_le.1 hhigh
    simp only [Text.isBlank, Bool.or_eq_true, Bool.and_eq_true, decide_eq_true_eq, beq_iff_eq] at h
    omega
  · exact absurd h (by decide)

/-- The characters that are tokens by themselves are neither parts of numbers nor blank. -/
theorem Token.not_isNumberChar_of_ofChar? {c : Char} {token : Token}
    (h : Token.ofChar? c = some token) : isNumberChar c = false ∧ Text.isBlank c = false := by
  unfold Token.ofChar? at h
  split at h
  case h_7 => simp at h
  all_goals decide

theorem numberTokens_nil : numberTokens [] = .ok [] :=
  rfl

/-- A run of characters that is a decimal is one token. -/
theorem numberTokens_of_isDecimal {run : List Char} {value : Float}
    (h : Number.IsDecimal run value) : numberTokens run = .ok [.number value] := by
  have hne : run ≠ [] := by
    cases h with
    | whole hne _ => exact hne
    | point _ _ _ => simp
  simp [numberTokens, hne, Number.readPlain_of_isDecimal h]

/-- A run of characters gives a token only if it is a decimal. -/
theorem isDecimal_of_numberTokens {run : List Char} {tokens : List Token} (hne : run ≠ [])
    (h : numberTokens run = .ok tokens) :
    ∃ value, Number.IsDecimal run value ∧ tokens = [.number value] := by
  cases hvalue : Number.readPlain run with
  | none => simp [numberTokens, hne, hvalue] at h
  | some value =>
    simp only [numberTokens, List.isEmpty_iff, hne, if_false, hvalue, Except.ok.injEq] at h
    exact ⟨value, Number.isDecimal_of_readPlain hvalue, h.symm⟩

theorem tokensAfter_nil (run : List Char) : tokensAfter run [] = numberTokens run :=
  rfl

/-- Two stars end the run before them and are one token. -/
theorem tokensAfter_stars (run rest : List Char) :
    tokensAfter run ('*' :: '*' :: rest) = do
      let before ← numberTokens run
      return before ++ .power :: (← tokensAfter [] rest) :=
  rfl

/-- A character that does not start a power sign. -/
theorem tokensAfter_cons (run : List Char) {c : Char} {rest : List Char}
    (hstars : ∀ tail, c = '*' → rest = '*' :: tail → False) :
    tokensAfter run (c :: rest) =
      if isNumberChar c then tokensAfter (run ++ [c]) rest
      else (do
        let before ← numberTokens run
        if Text.isBlank c then
          return before ++ (← tokensAfter [] rest)
        else if (c == '+' || c == '-') && rest.head? == some c then
          throw (.unexpectedChar c)
        else
          match Token.ofChar? c with
          | some token => return before ++ token :: (← tokensAfter [] rest)
          | none => throw (.unexpectedChar c)) :=
  tokensAfter.eq_3 run c rest hstars

/-- Digits and points join the run that the tokenizer is in. -/
theorem tokensAfter_append {run : List Char} (hrun : ∀ c ∈ run, isNumberChar c = true)
    (before rest : List Char) :
    tokensAfter before (run ++ rest) = tokensAfter (before ++ run) rest := by
  induction run generalizing before with
  | nil => simp
  | cons c run ih =>
    have hc := hrun c List.mem_cons_self
    have hstar : c ≠ '*' := by
      rintro rfl
      exact absurd hc (by decide)
    rw [List.cons_append, tokensAfter_cons before fun tail hc' _ => hstar hc', if_pos hc,
      ih fun d hd => hrun d (List.mem_cons_of_mem _ hd), List.append_assoc]
    rfl

/-- Where no digit or point follows, the run is a number of its own. -/
theorem tokensAfter_of_stop (run : List Char) {rest : List Char}
    (hrest : ∀ c ∈ rest.head?, isNumberChar c = false) :
    tokensAfter run rest = do
      let before ← numberTokens run
      let after ← tokensAfter [] rest
      return before ++ after := by
  rcases rest with _ | ⟨c, rest⟩
  · cases hrun : numberTokens run <;> simp [tokensAfter_nil, hrun, numberTokens_nil, bind,
      Except.bind, pure, Except.pure]
  -- Whatever ends the run, the run is tokenized first; two stars are one token.
  by_cases hstars : ∃ tail, c = '*' ∧ rest = '*' :: tail
  · obtain ⟨tail, rfl, rfl⟩ := hstars
    cases hrun : numberTokens run <;> cases hafter : tokensAfter [] tail <;>
      simp [tokensAfter_stars, hrun, hafter, numberTokens_nil, bind, Except.bind, pure, Except.pure]
  · have hstars : ∀ tail, c = '*' → rest = '*' :: tail → False :=
      fun tail hc htail => hstars ⟨tail, hc, htail⟩
    have hc : isNumberChar c = false := hrest c rfl
    rw [tokensAfter_cons _ hstars, tokensAfter_cons _ hstars, numberTokens_nil]
    simp only [hc, Bool.false_eq_true, if_false]
    cases numberTokens run with
    | error error => rfl
    | ok before =>
      by_cases hblank : Text.isBlank c = true
      · simp only [hblank, if_true]
        cases tokensAfter [] rest <;> rfl
      · by_cases hgap : ((c == '+' || c == '-') && rest.head? == some c) = true
        · simp only [hblank, hgap]
          rfl
        · simp only [hblank, hgap]
          cases Token.ofChar? c with
          | none => rfl
          | some token => cases tokensAfter [] rest <;> rfl

/-! ### The tokens of one step -/

/-- Between tokens blanks are passed over. -/
theorem tokensAfter_blank {c : Char} (hc : Text.isBlank c = true) (rest : List Char) :
    tokensAfter [] (c :: rest) = tokensAfter [] rest := by
  have hstar : c ≠ '*' := by
    rintro rfl
    exact absurd hc (by decide)
  rw [tokensAfter_cons [] fun tail hc' _ => hstar hc', isNumberChar_of_isBlank hc, numberTokens_nil,
    hc]
  cases tokensAfter [] rest <;> rfl

/-- Between tokens two stars are the power sign. -/
theorem tokensAfter_power (rest : List Char) :
    tokensAfter [] ('*' :: '*' :: rest) = do return .power :: (← tokensAfter [] rest) := by
  rw [tokensAfter_stars, numberTokens_nil]
  cases tokensAfter [] rest <;> rfl

/-- Between tokens any other sign is a token, if it is not doubled. -/
theorem tokensAfter_single {c : Char} {token : Token} (htoken : Token.ofChar? c = some token)
    {rest : List Char} (hrest : c = '+' ∨ c = '-' ∨ c = '*' → rest.head? ≠ some c) :
    tokensAfter [] (c :: rest) = do return token :: (← tokensAfter [] rest) := by
  obtain ⟨hnumber, hblank⟩ := Token.not_isNumberChar_of_ofChar? htoken
  have hgap : ((c == '+' || c == '-') && rest.head? == some c) = false := by
    by_contra hsame
    simp only [Bool.not_eq_false, Bool.and_eq_true, Bool.or_eq_true, beq_iff_eq] at hsame
    exact hrest (hsame.1.imp_right Or.inl) hsame.2
  have hstars : ∀ tail, c = '*' → rest = '*' :: tail → False := by
    rintro tail rfl rfl
    exact hrest (by simp) rfl
  rw [tokensAfter_cons [] hstars, hnumber, numberTokens_nil, hblank, hgap]
  simp only [htoken]
  cases tokensAfter [] rest <;> rfl

/-! ### All tokens -/

/-- What is written with tokens is split into these tokens. -/
theorem tokenize_of_lexes {text : List Char} {tokens : List Token} (h : Lexes text tokens) :
    tokenize text = .ok tokens := by
  unfold tokenize
  induction h with
  | nil => rfl
  | blank hc _ ih => rw [tokensAfter_blank hc, ih]
  | number hrun hrest hvalue _ ih =>
    rw [tokensAfter_append hrun, List.nil_append, tokensAfter_of_stop _ hrest,
      numberTokens_of_isDecimal hvalue, ih]
    rfl
  | power _ ih =>
    rw [tokensAfter_power, ih]
    rfl
  | single htoken hrest _ ih =>
    rw [tokensAfter_single htoken hrest, ih]
    rfl

/-- A run in front of a text that lexes, with the tokens of both. -/
theorem Lexes.run_append {run rest : List Char} {before after : List Token}
    (hrun : ∀ c ∈ run, isNumberChar c = true) (hrest : ∀ c ∈ rest.head?, isNumberChar c = false)
    (hbefore : numberTokens run = .ok before) (hafter : Lexes rest after) :
    Lexes (run ++ rest) (before ++ after) := by
  by_cases hne : run = []
  · subst hne
    obtain rfl := Except.ok.inj hbefore
    exact hafter
  · obtain ⟨value, hvalue, rfl⟩ := isDecimal_of_numberTokens hne hbefore
    exact .number hrun hrest hvalue hafter

/-- A character that starts neither a number nor a power sign is blank, or a token by itself. -/
theorem tokensAfter_eq_ok {c : Char} {rest : List Char} {tokens : List Token}
    (hstars : ∀ tail, c = '*' → rest = '*' :: tail → False) (hc : isNumberChar c = false)
    (h : tokensAfter [] (c :: rest) = .ok tokens) :
    (Text.isBlank c = true ∧ tokensAfter [] rest = .ok tokens) ∨
      ∃ token after, Token.ofChar? c = some token ∧
        (c = '+' ∨ c = '-' ∨ c = '*' → rest.head? ≠ some c) ∧
        tokensAfter [] rest = .ok after ∧ tokens = token :: after := by
  by_cases hblank : Text.isBlank c = true
  · rw [tokensAfter_blank hblank] at h
    exact .inl ⟨hblank, h⟩
  by_cases hgap : ((c == '+' || c == '-') && rest.head? == some c) = true
  · rw [tokensAfter_cons [] hstars] at h
    simp [hc, hblank, hgap, numberTokens_nil, bind, Except.bind, throw, throwThe,
      MonadExceptOf.throw] at h
  cases htoken : Token.ofChar? c with
  | none =>
    rw [tokensAfter_cons [] hstars] at h
    simp [hc, hblank, hgap, htoken, numberTokens_nil, bind, Except.bind, throw, throwThe,
      MonadExceptOf.throw] at h
  | some token =>
    have hrest : c = '+' ∨ c = '-' ∨ c = '*' → rest.head? ≠ some c := by
      intro hc' hhead
      obtain ⟨tail, rfl⟩ := List.head?_eq_some_iff.1 hhead
      rcases hc' with rfl | rfl | rfl
      · simp at hgap
      · simp at hgap
      · exact hstars tail rfl rfl
    rw [tokensAfter_single htoken hrest] at h
    obtain ⟨after, hafter, h⟩ := exists_of_bind_eq_ok h
    exact .inr ⟨token, after, rfl, hrest, hafter, (Except.ok.inj h).symm⟩

/-- What is found after a run of digits and points belongs to the run and the rest together. -/
theorem lexes_of_tokensAfter {run rest : List Char} {tokens : List Token}
    (hrun : ∀ c ∈ run, isNumberChar c = true) (h : tokensAfter run rest = .ok tokens) :
    Lexes (run ++ rest) tokens := by
  induction run, rest using tokensAfter.induct generalizing tokens with
  | case1 run =>
    rw [← List.append_nil tokens]
    exact .run_append hrun (by simp) h .nil
  | case2 run rest ih =>
    have hstop : ∀ c ∈ ('*' :: '*' :: rest).head?, isNumberChar c = false := by
      rintro c ⟨⟩
      decide
    rw [tokensAfter_of_stop run hstop, tokensAfter_power] at h
    obtain ⟨before, hbefore, h⟩ := exists_of_bind_eq_ok h
    obtain ⟨_, hpower, h⟩ := exists_of_bind_eq_ok h
    obtain ⟨after, hafter, ⟨⟩⟩ := exists_of_bind_eq_ok hpower
    obtain rfl := Except.ok.inj h
    exact .run_append hrun hstop hbefore (.power (ih (by simp) hafter))
  -- the run goes on
  | case3 run c rest hstars hc ih =>
    rw [tokensAfter_cons run hstars, if_pos hc] at h
    have hrun' : ∀ d ∈ run ++ [c], isNumberChar d = true := by
      simpa [or_imp, forall_and] using ⟨hrun, hc⟩
    simpa using ih hrun' h
  | case4 run c rest hstars hc ih =>
    have hstop : ∀ d ∈ (c :: rest).head?, isNumberChar d = false := by
      rintro d ⟨⟩
      simpa using hc
    rw [tokensAfter_of_stop run hstop] at h
    obtain ⟨before, hbefore, h⟩ := exists_of_bind_eq_ok h
    obtain ⟨after, hafter, h⟩ := exists_of_bind_eq_ok h
    obtain rfl := Except.ok.inj h
    refine .run_append hrun hstop hbefore ?_
    rcases tokensAfter_eq_ok hstars (by simpa using hc) hafter with
      ⟨hblank, hrest⟩ | ⟨token, after', htoken, hgap, hrest, rfl⟩
    · exact .blank hblank (ih (by simp) hrest)
    · exact .single htoken hgap (ih (by simp) hrest)

/-- The tokens of a text are those that it is written with. -/
theorem tokenize_eq_ok_iff {text : List Char} {tokens : List Token} :
    tokenize text = .ok tokens ↔ Lexes text tokens :=
  ⟨fun h => lexes_of_tokensAfter (by simp) h, tokenize_of_lexes⟩

end Formula

end Reticle
