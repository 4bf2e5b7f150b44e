import Reticle.Formula.Parser
import Reticle.Proofs.Lexing
import Reticle.Proofs.Phrases

/-!
# What the parser accepts

A text is a formula when its tokens are those of a phrase, and its tree is the tree of the phrase.
Whatever the parser takes are the tokens of a phrase (`sound`); this needs nothing about the fuel.
Conversely every phrase is taken whole with eight calls to a token (`Phrase.taken`). A sum or a
product is read by a loop that carries the tree of what it has read, so for them both statements
are about the loop started in the middle of the phrase.
-/

namespace Reticle.Formula

/-! ## Where a parser stops -/

/-- The tokens do not start with the mark. -/
def Clear (mark : Mark) (tokens : Tokens) : Prop :=
  ∀ t ∈ tokens.head?, t.1 ≠ mark.token

/-- No tokens start with no mark. -/
theorem clear_nil (mark : Mark) : Clear mark [] := by
  simp [Clear]

/-- Tokens are clear of a mark when the first of them is another token. -/
theorem clear_cons {mark : Mark} {token : Token} {position : Nat} {tokens : Tokens} :
    Clear mark ((token, position) :: tokens) ↔ token ≠ mark.token := by
  simp [Clear]

/-- Tokens that start with a mark are clear of every other mark. -/
theorem clear_mark_cons {m n : Mark} {position : Nat} {tokens : Tokens} :
    Clear m ((n.token, position) :: tokens) ↔ n ≠ m := by
  rw [clear_cons, ne_eq, Mark.token_inj]

/-- Tokens start with a mark or are clear of it. -/
theorem clear_or_eq_cons (mark : Mark) (tokens : Tokens) :
    Clear mark tokens ∨ ∃ position rest, tokens = (mark.token, position) :: rest := by
  rcases tokens with _ | ⟨⟨token, position⟩, rest⟩
  · exact .inl (clear_nil mark)
  · by_cases h : token = mark.token
    · exact .inr ⟨position, rest, by rw [h]⟩
    · exact .inl (clear_cons.2 h)

/-- Tokens start with a sign or are clear of both signs. -/
theorem clear_sign_or_eq_cons (tokens : Tokens) :
    (∀ s, Clear (.sign s) tokens) ∨
      ∃ s position rest, tokens = ((Mark.sign s).token, position) :: rest := by
  rcases clear_or_eq_cons (.sign .plus) tokens with hplus | hplus
  · rcases clear_or_eq_cons (.sign .minus) tokens with hminus | hminus
    · exact .inl fun s => by cases s <;> assumption
    · exact .inr ⟨.minus, hminus⟩
  · exact .inr ⟨.plus, hplus⟩

/-- Tokens start with a scaling or are clear of both. -/
theorem clear_scaling_or_eq_cons (tokens : Tokens) :
    (∀ s, Clear (.scaling s) tokens) ∨
      ∃ s position rest, tokens = ((Mark.scaling s).token, position) :: rest := by
  rcases clear_or_eq_cons (.scaling .times) tokens with htimes | htimes
  · rcases clear_or_eq_cons (.scaling .divide) tokens with hdivide | hdivide
    · exact .inl fun s => by cases s <;> assumption
    · exact .inr ⟨.divide, hdivide⟩
  · exact .inr ⟨.times, htimes⟩

/-! ## One call of each parser -/

section Calls

variable (fuel : Nat) {tokens rest : Tokens} {e : Expr}

/-- A sum ends where no sign follows. -/
theorem continueSum_of_clear (h : ∀ s, Clear (.sign s) tokens) (left : Expr) :
    continueSum (fuel + 1) left tokens = .ok (left, tokens) := by
  rw [continueSum.eq_4]
  · rintro position rest rfl
    exact clear_cons.1 (h .plus) rfl
  · rintro position rest rfl
    exact clear_cons.1 (h .minus) rfl

/-- A sum goes on after a sign with one more product. -/
theorem continueSum_sign (left : Expr) (s : Sign) (position : Nat) (rest : Tokens) :
    continueSum (fuel + 1) left (((Mark.sign s).token, position) :: rest) =
      parseProduct fuel rest >>= fun (right, rest) =>
        continueSum fuel (s.join left right) rest := by
  cases s <;> rfl

/-- A product ends where no scaling follows. -/
theorem continueProduct_of_clear (h : ∀ s, Clear (.scaling s) tokens) (left : Expr) :
    continueProduct (fuel + 1) left tokens = .ok (left, tokens) := by
  rw [continueProduct.eq_4]
  · rintro position rest rfl
    exact clear_cons.1 (h .times) rfl
  · rintro position rest rfl
    exact clear_cons.1 (h .divide) rfl

/-- A product goes on after a scaling with one more operand. -/
theorem continueProduct_scaling (left : Expr) (s : Scaling) (position : Nat) (rest : Tokens) :
    continueProduct (fuel + 1) left (((Mark.scaling s).token, position) :: rest) =
      parseOperand fuel rest >>= fun (right, rest) =>
        continueProduct fuel (s.join left right) rest := by
  cases s <;> rfl

/-- A sign at the start applies to the whole operand behind it. -/
theorem parseOperand_sign (s : Sign) (position : Nat) (rest : Tokens) :
    parseOperand (fuel + 1) (((Mark.sign s).token, position) :: rest) =
      parseSigned fuel rest >>= fun (inner, rest) => .ok (s.apply inner, rest) := by
  cases s with
  | minus => rfl
  | plus =>
    simp only [Mark.token, parseOperand]
    cases parseSigned fuel rest <;> rfl

/-- An operand without a sign is a primary, with an exponent if a power sign follows. -/
theorem parseOperand_of_clear (hsign : ∀ s, Clear (.sign s) tokens) :
    parseOperand (fuel + 1) tokens = parsePrimary fuel tokens >>= fun (base, rest) =>
      match rest with
      | (.power, _) :: rest =>
        parseOperand fuel rest >>= fun (exponent, rest) => .ok (.pow base exponent, rest)
      | rest => .ok (base, rest) := by
  rw [parseOperand.eq_4]
  · rfl
  · rintro position rest rfl
    exact clear_cons.1 (hsign .plus) rfl
  · rintro position rest rfl
    exact clear_cons.1 (hsign .minus) rfl

/-- A primary that no power sign follows is an operand. -/
theorem parseOperand_of_parsePrimary (hsign : ∀ s, Clear (.sign s) tokens)
    (h : parsePrimary fuel tokens = .ok (e, rest)) (hrest : Clear .power rest) :
    parseOperand (fuel + 1) tokens = .ok (e, rest) := by
  rw [parseOperand_of_clear fuel hsign, h]
  rcases rest with _ | ⟨⟨token, position⟩, rest⟩
  · rfl
  · simp only [bind, Except.bind]
    split
    · rename_i heq
      cases heq
      exact absurd rfl (clear_cons.1 hrest)
    · rfl

/-- A primary that a power sign follows is raised to the power of the operand after it. -/
theorem parseOperand_of_power (hsign : ∀ s, Clear (.sign s) tokens) {position : Nat}
    (h : parsePrimary fuel tokens = .ok (e, (Mark.power.token, position) :: rest)) :
    parseOperand (fuel + 1) tokens =
      parseOperand fuel rest >>= fun (exponent, rest) => .ok (.pow e exponent, rest) := by
  rw [parseOperand_of_clear fuel hsign, h]
  rfl

/-- The check for a power sign lets exactly the results pass that none follows. -/
theorem refusePower_eq_ok_iff (x : Parsed) :
    (x >>= fun (operand, rest) =>
      match rest with
      | (.power, _) :: _ => throw .signedPowerBase
      | rest => return (operand, rest)) = Except.ok (e, rest) ↔
    Clear .power rest ∧ x = .ok (e, rest) := by
  rcases x with error | ⟨operand, after⟩
  · simp [bind, Except.bind]
  rcases clear_or_eq_cons .power after with hafter | ⟨position, after, rfl⟩
  · simp only [bind, Except.bind]
    split
    · exact absurd rfl (clear_cons.1 hafter)
    · simp only [pure, Except.pure, Except.ok.injEq, Prod.mk.injEq]
      constructor
      · rintro ⟨rfl, rfl⟩
        exact ⟨hafter, rfl, rfl⟩
      · exact fun h => h.2
  · simp only [bind, Except.bind, Mark.token, Except.ok.injEq, Prod.mk.injEq]
    constructor
    · rintro ⟨⟩
    · rintro ⟨hrest, rfl, rfl⟩
      exact absurd rfl (clear_cons.1 hrest)

/-- What follows a sign is a primary, or an operand with signs of its own; a power sign may not
follow it. -/
theorem parseSigned_eq_ok_iff :
    parseSigned (fuel + 1) tokens = .ok (e, rest) ↔ Clear .power rest ∧
      ((∀ s, Clear (.sign s) tokens) ∧ parsePrimary fuel tokens = .ok (e, rest) ∨
        (∃ s, ¬ Clear (.sign s) tokens) ∧ parseOperand fuel tokens = .ok (e, rest)) := by
  rcases clear_sign_or_eq_cons tokens with hsign | ⟨s, position, after, rfl⟩
  · rw [parseSigned.eq_4]
    · refine (refusePower_eq_ok_iff _).trans ?_
      simp [hsign]
    · rintro position rest rfl
      exact clear_cons.1 (hsign .plus) rfl
    · rintro position rest rfl
      exact clear_cons.1 (hsign .minus) rfl
  · have hsome : ∃ r, ¬ Clear (.sign r) (((Mark.sign s).token, position) :: after) :=
      ⟨s, fun hs => clear_cons.1 hs rfl⟩
    have hnot : ¬ ∀ r, Clear (.sign r) (((Mark.sign s).token, position) :: after) :=
      fun hs => clear_cons.1 (hs s) rfl
    simp only [hsome, hnot, true_and, false_and, false_or]
    cases s <;> exact refusePower_eq_ok_iff _

/-- A sum in parentheses is a primary. -/
theorem parsePrimary_opening {opened closed : Nat}
    (h : parseSum fuel tokens = .ok (e, (Mark.closing.token, closed) :: rest)) :
    parsePrimary (fuel + 1) ((Mark.opening.token, opened) :: tokens) = .ok (e, rest) := by
  simp only [Mark.token, parsePrimary, h]
  rfl

end Calls

/-! ## What is taken is a phrase -/

/-- The tokens are those of a phrase with this tree, and then the rest. -/
def Begins (category : Category) (tokens : Tokens) (e : Expr) (rest : Tokens) : Prop :=
  ∃ phrase : Phrase Float category, phrase.tree id = e ∧
    tokens.map Prod.fst = phrase.tokens id ++ rest.map Prod.fst

/-- The tokens are signs before a primary with this tree, and then the rest. -/
def BeginsSigned (tokens : Tokens) (e : Expr) (rest : Tokens) : Prop :=
  ∃ (signs : List Sign) (primary : Phrase Float .primary),
    signs.foldr Sign.apply (primary.tree id) = e ∧
      tokens.map Prod.fst =
        signs.map (fun s => (Mark.sign s).token) ++ primary.tokens id ++ rest.map Prod.fst

/-- With the tokens before `rest`, the phrase grows into one of its category with this tree. -/
def Phrase.Grows {category : Category} (left : Phrase Float category) (tokens : Tokens) (e : Expr)
    (rest : Tokens) : Prop :=
  ∃ whole : Phrase Float category, whole.tree id = e ∧
    left.tokens id ++ tokens.map Prod.fst = whole.tokens id ++ rest.map Prod.fst

/-- With this fuel, whatever a parser takes are the tokens of a phrase. A loop goes on with the
phrase that it has read. -/
structure Sound (fuel : Nat) : Prop where
  sum : ∀ {tokens e rest}, parseSum fuel tokens = .ok (e, rest) → Begins .sum tokens e rest
  moreSum : ∀ (left : Phrase Float .sum) {tokens e rest},
    continueSum fuel (left.tree id) tokens = .ok (e, rest) → left.Grows tokens e rest
  product : ∀ {tokens e rest},
    parseProduct fuel tokens = .ok (e, rest) → Begins .product tokens e rest
  moreProduct : ∀ (left : Phrase Float .product) {tokens e rest},
    continueProduct fuel (left.tree id) tokens = .ok (e, rest) → left.Grows tokens e rest
  operand : ∀ {tokens e rest},
    parseOperand fuel tokens = .ok (e, rest) → Begins .operand tokens e rest
  signed : ∀ {tokens e rest}, parseSigned fuel tokens = .ok (e, rest) → BeginsSigned tokens e rest
  primary : ∀ {tokens e rest},
    parsePrimary fuel tokens = .ok (e, rest) → Begins .primary tokens e rest

/-- An operand that starts with a sign is signs before a primary. -/
theorem Begins.signed {s : Sign} {tokens rest : Tokens} {e : Expr} (h : Begins .operand tokens e rest)
    (hsign : ¬ Clear (.sign s) tokens) : BeginsSigned tokens e rest := by
  obtain ⟨phrase, htree, htokens⟩ := h
  obtain ⟨position, after, rfl⟩ := (clear_or_eq_cons (.sign s) tokens).resolve_left hsign
  cases phrase with
  | signed first more primary =>
    exact ⟨first :: more, primary, htree, by rw [htokens, Phrase.tokens_signed]⟩
  | plain primary =>
    obtain ⟨token, more, hfirst, hnot⟩ := primary.tokens_primary_eq_cons id
    rw [Phrase.tokens_plain, hfirst] at htokens
    exact absurd (List.cons.inj htokens).1.symm (hnot s)
  | power base exponent =>
    obtain ⟨token, more, hfirst, hnot⟩ := base.tokens_primary_eq_cons id
    rw [Phrase.tokens_power, hfirst] at htokens
    exact absurd (List.cons.inj htokens).1.symm (hnot s)

namespace Sound

variable {fuel : Nat} {tokens rest : Tokens} {e : Expr}

/-- A parsed sum is a phrase: its first product, and what it grows to from there. -/
theorem sum_succ (ih : Sound fuel) (h : parseSum (fuel + 1) tokens = .ok (e, rest)) :
    Begins .sum tokens e rest := by
  obtain ⟨⟨first, mid⟩, hfirst, hmore⟩ := exists_of_bind_eq_ok h
  obtain ⟨product, rfl, htokens⟩ := ih.product hfirst
  obtain ⟨whole, htree, hwhole⟩ := ih.moreSum (.term product) hmore
  exact ⟨whole, htree, by rw [htokens, ← hwhole, Phrase.tokens_term]⟩

/-- A sum that goes on grows by whole products. -/
theorem moreSum_succ (ih : Sound fuel) (left : Phrase Float .sum)
    (h : continueSum (fuel + 1) (left.tree id) tokens = .ok (e, rest)) :
    left.Grows tokens e rest := by
  rcases clear_sign_or_eq_cons tokens with hclear | ⟨s, position, after, rfl⟩
  · rw [continueSum_of_clear fuel hclear] at h
    cases h
    exact ⟨left, rfl, rfl⟩
  · rw [continueSum_sign] at h
    obtain ⟨⟨right, mid⟩, hright, hmore⟩ := exists_of_bind_eq_ok h
    obtain ⟨product, rfl, htokens⟩ := ih.product hright
    -- the loop goes on with the grown phrase on its left, which groups to the left
    obtain ⟨whole, htree, hwhole⟩ := ih.moreSum (.summed left s product) hmore
    refine ⟨whole, htree, ?_⟩
    rw [← hwhole, Phrase.tokens_summed, List.map_cons, htokens]
    simp

/-- A parsed product is a phrase: its first operand, and what it grows to from there. -/
theorem product_succ (ih : Sound fuel) (h : parseProduct (fuel + 1) tokens = .ok (e, rest)) :
    Begins .product tokens e rest := by
  obtain ⟨⟨first, mid⟩, hfirst, hmore⟩ := exists_of_bind_eq_ok h
  obtain ⟨operand, rfl, htokens⟩ := ih.operand hfirst
  obtain ⟨whole, htree, hwhole⟩ := ih.moreProduct (.single operand) hmore
  exact ⟨whole, htree, by rw [htokens, ← hwhole, Phrase.tokens_single]⟩

/-- A product that goes on grows by whole operands. -/
theorem moreProduct_succ (ih : Sound fuel) (left : Phrase Float .product)
    (h : continueProduct (fuel + 1) (left.tree id) tokens = .ok (e, rest)) :
    left.Grows tokens e rest := by
  rcases clear_scaling_or_eq_cons tokens with hclear | ⟨s, position, after, rfl⟩
  · rw [continueProduct_of_clear fuel hclear] at h
    cases h
    exact ⟨left, rfl, rfl⟩
  · rw [continueProduct_scaling] at h
    obtain ⟨⟨right, mid⟩, hright, hmore⟩ := exists_of_bind_eq_ok h
    obtain ⟨operand, rfl, htokens⟩ := ih.operand hright
    obtain ⟨whole, htree, hwhole⟩ := ih.moreProduct (.scaled left s operand) hmore
    refine ⟨whole, htree, ?_⟩
    rw [← hwhole, Phrase.tokens_scaled, List.map_cons, htokens]
    simp

/-- A parsed operand is a phrase: signed, a power or plain. -/
theorem operand_succ (ih : Sound fuel) (h : parseOperand (fuel + 1) tokens = .ok (e, rest)) :
    Begins .operand tokens e rest := by
  rcases clear_sign_or_eq_cons tokens with hclear | ⟨s, position, after, rfl⟩
  · cases hbase : parsePrimary fuel tokens with
    | error error =>
      rw [parseOperand_of_clear fuel hclear, hbase] at h
      cases h
    | ok result =>
      obtain ⟨base, mid⟩ := result
      obtain ⟨primary, rfl, htokens⟩ := ih.primary hbase
      -- A power sign belongs to the operand if one follows the primary.
      rcases clear_or_eq_cons .power mid with hpower | ⟨position, after, rfl⟩
      · rw [parseOperand_of_parsePrimary fuel hclear hbase hpower] at h
        cases h
        exact ⟨.plain primary, rfl, htokens⟩
      · rw [parseOperand_of_power fuel hclear hbase] at h
        obtain ⟨⟨exponent, last⟩, hexponent, hlast⟩ := exists_of_bind_eq_ok h
        cases hlast
        obtain ⟨operand, rfl, hoperand⟩ := ih.operand hexponent
        refine ⟨.power primary operand, rfl, ?_⟩
        rw [htokens, List.map_cons, hoperand, Phrase.tokens_power]
        simp [Mark.token]
  · rw [parseOperand_sign] at h
    obtain ⟨⟨inner, mid⟩, hinner, hmid⟩ := exists_of_bind_eq_ok h
    cases hmid
    obtain ⟨signs, primary, rfl, htokens⟩ := ih.signed hinner
    refine ⟨.signed s signs primary, rfl, ?_⟩
    rw [List.map_cons, htokens, Phrase.tokens_signed]
    simp

/-- What is parsed behind a sign are more signs and then a primary. -/
theorem signed_succ (ih : Sound fuel) (h : parseSigned (fuel + 1) tokens = .ok (e, rest)) :
    BeginsSigned tokens e rest := by
  obtain ⟨-, ⟨-, hprimary⟩ | ⟨⟨s, hs⟩, hoperand⟩⟩ := (parseSigned_eq_ok_iff fuel).1 h
  · obtain ⟨primary, htree, htokens⟩ := ih.primary hprimary
    exact ⟨[], primary, htree, htokens⟩
  · exact (ih.operand hoperand).signed hs

/-- A parsed primary is a phrase: a number or a sum in parentheses. -/
theorem primary_succ (ih : Sound fuel) (h : parsePrimary (fuel + 1) tokens = .ok (e, rest)) :
    Begins .primary tokens e rest := by
  rcases tokens with _ | ⟨⟨token, position⟩, tokens⟩
  · cases h
  cases token with
  | number value =>
    cases h
    exact ⟨.atom value, rfl, rfl⟩
  | opening =>
    obtain ⟨⟨inner, mid⟩, hinner, hclosing⟩ := exists_of_bind_eq_ok h
    obtain ⟨sum, rfl, htokens⟩ := ih.sum hinner
    rcases clear_or_eq_cons .closing mid with hclear | ⟨position', after, rfl⟩
    · simp only at hclosing
      split at hclosing
      · exact absurd rfl (clear_cons.1 hclear)
      · cases hclosing
    · cases hclosing
      refine ⟨.parens sum, rfl, ?_⟩
      rw [List.map_cons, htokens, Phrase.tokens_parens]
      simp [Mark.token]
  | _ => cases h

end Sound

/-- With any fuel, whatever a parser takes are the tokens of a phrase. -/
theorem sound (fuel : Nat) : Sound fuel := by
  -- all parsers at once, since each calls others with one call less
  induction fuel with
  | zero => constructor <;> intros <;> contradiction
  | succ fuel ih =>
    exact {
      sum := ih.sum_succ
      moreSum := fun left => ih.moreSum_succ left
      product := ih.product_succ
      moreProduct := fun left => ih.moreProduct_succ left
      operand := ih.operand_succ
      signed := ih.signed_succ
      primary := ih.primary_succ }

/-! ## Phrases are taken whole -/

namespace Phrase

/-- With eight calls to a token and some to start with, the parser of the category takes the tokens
of the phrase: it gives the tree or, where a loop reads the phrase, it is about to go on with the
tree after no more calls than tokens. -/
def Taken : {category : Category} → Phrase Float category → Prop
  | .primary, phrase => ∀ {tokens rest : Tokens} {fuel : Nat},
      tokens.map Prod.fst = phrase.tokens id → depthPerToken * tokens.length ≤ fuel →
        parsePrimary fuel (tokens ++ rest) = .ok (phrase.tree id, rest)
  | .operand, phrase => ∀ {tokens rest : Tokens} {fuel : Nat},
      tokens.map Prod.fst = phrase.tokens id → Clear .power rest →
        depthPerToken * tokens.length + 1 ≤ fuel →
          parseOperand fuel (tokens ++ rest) = .ok (phrase.tree id, rest)
  | .product, phrase => ∀ {tokens rest : Tokens} {fuel : Nat},
      tokens.map Prod.fst = phrase.tokens id → Clear .power rest →
        depthPerToken * tokens.length + 2 ≤ fuel →
          ∃ calls ≤ tokens.length + 1, parseProduct fuel (tokens ++ rest) =
            continueProduct (fuel - calls) (phrase.tree id) rest
  | .sum, phrase => ∀ {tokens rest : Tokens} {fuel : Nat},
      tokens.map Prod.fst = phrase.tokens id → Clear .power rest → (∀ s, Clear (.scaling s) rest) →
        depthPerToken * tokens.length + 3 ≤ fuel →
          ∃ calls ≤ tokens.length + 1, parseSum fuel (tokens ++ rest) =
            continueSum (fuel - calls) (phrase.tree id) rest

/-- A primary starts with no sign. -/
theorem clear_sign_primary {primary : Phrase Float .primary} {tokens : Tokens}
    (h : tokens.map Prod.fst = primary.tokens id) (rest : Tokens) (s : Sign) :
    Clear (.sign s) (tokens ++ rest) := by
  obtain ⟨token, more, hfirst, hnot⟩ := primary.tokens_primary_eq_cons id
  obtain ⟨⟨token, position⟩, tokens, rfl, rfl, -⟩ := List.map_eq_cons_iff.1 (h.trans hfirst)
  exact clear_cons.2 (hnot s)

/-- A number is taken by the parser of primaries. -/
theorem taken_atom (value : Float) : (Phrase.atom value).Taken := by
  intro tokens rest fuel htokens hfuel
  obtain ⟨⟨token, position⟩, rfl, rfl⟩ := List.map_eq_singleton_iff.1 htokens
  simp only [depthPerToken, List.length_singleton] at hfuel
  obtain ⟨fuel, rfl⟩ : ∃ n, fuel = n + 1 :=
    Nat.exists_eq_add_one_of_ne_zero (by omega)
  rfl

/-- A sum in parentheses is taken by the parser of primaries. -/
theorem taken_parens {inner : Phrase Float .sum} (ih : inner.Taken) : (parens inner).Taken := by
  intro tokens rest fuel htokens hfuel
  rw [tokens_parens] at htokens
  obtain ⟨⟨_, opened⟩, after, rfl, rfl, hafter⟩ := List.map_eq_cons_iff.1 htokens
  obtain ⟨body, last, rfl, hbody, hlast⟩ := List.map_eq_append_iff.1 hafter
  obtain ⟨⟨_, closed⟩, rfl, rfl⟩ := List.map_eq_singleton_iff.1 hlast
  simp only [depthPerToken, List.length_cons, List.length_append, List.length_nil] at hfuel
  obtain ⟨fuel, rfl⟩ : ∃ n, fuel = n + 1 :=
    Nat.exists_eq_add_one_of_ne_zero (by omega)
  have hbound : depthPerToken * body.length + 3 ≤ fuel := by
    rw [depthPerToken]
    omega
  have hclear : ∀ m, .closing ≠ m → Clear m ((Mark.closing.token, closed) :: rest) :=
    fun m hm => clear_mark_cons.2 hm
  obtain ⟨calls, hcalls, hsum⟩ :=
    ih hbody (hclear _ (by simp)) (fun s => hclear _ (by simp)) hbound
  obtain ⟨left, hleft⟩ : ∃ n, fuel - calls = n + 1 :=
    Nat.exists_eq_add_one_of_ne_zero (by omega)
  rw [hleft, continueSum_of_clear left fun s => hclear _ (by simp)] at hsum
  rw [List.cons_append, List.append_assoc]
  exact parsePrimary_opening fuel hsum

/-- A plain primary is taken by the parser of operands. -/
theorem taken_plain {primary : Phrase Float .primary} (ih : primary.Taken) :
    (plain primary).Taken := by
  intro tokens rest fuel htokens hrest hfuel
  obtain ⟨fuel, rfl⟩ : ∃ n, fuel = n + 1 :=
    Nat.exists_eq_add_one_of_ne_zero (by omega)
  rw [tokens_plain] at htokens
  exact parseOperand_of_parsePrimary fuel (clear_sign_primary htokens rest)
    (ih htokens (Nat.le_of_succ_le_succ hfuel)) hrest

/-- A power is taken by the parser of operands. -/
theorem taken_power {base : Phrase Float .primary} {exponent : Phrase Float .operand}
    (ihb : base.Taken) (ihe : exponent.Taken) : (power base exponent).Taken := by
  intro tokens rest fuel htokens hrest hfuel
  rw [tokens_power] at htokens
  obtain ⟨before, others, rfl, hbefore, hothers⟩ := List.map_eq_append_iff.1 htokens
  obtain ⟨⟨_, position⟩, after, rfl, rfl, hafter⟩ := List.map_eq_cons_iff.1 hothers
  simp only [depthPerToken, List.length_cons, List.length_append] at hfuel
  obtain ⟨fuel, rfl⟩ : ∃ n, fuel = n + 1 :=
    Nat.exists_eq_add_one_of_ne_zero (by omega)
  have hb : depthPerToken * before.length ≤ fuel := by
    rw [depthPerToken]
    omega
  have he : depthPerToken * after.length + 1 ≤ fuel := by
    rw [depthPerToken]
    omega
  rw [List.append_assoc, List.cons_append,
    parseOperand_of_power fuel (clear_sign_primary hbefore _) (ihb hbefore hb), ihe hafter hrest he]
  rfl

/-- A signed primary is taken by the parser of operands. -/
theorem taken_signed {primary : Phrase Float .primary} (ih : primary.Taken) (first : Sign)
    (more : List Sign) : (signed first more primary).Taken := by
  induction more generalizing first with
  | nil =>
    intro tokens rest fuel htokens hrest hfuel
    rw [tokens_signed] at htokens
    obtain ⟨⟨_, position⟩, after, rfl, rfl, hafter⟩ := List.map_eq_cons_iff.1 htokens
    simp only [depthPerToken, List.length_cons] at hfuel
    obtain ⟨fuel, rfl⟩ : ∃ n, fuel = n + 2 := ⟨fuel - 2, by omega⟩
    have hprimary : parsePrimary fuel (after ++ rest) = .ok (primary.tree id, rest) :=
      ih hafter (by rw [depthPerToken]; omega)
    have hsigned := (parseSigned_eq_ok_iff fuel).2
      ⟨hrest, .inl ⟨clear_sign_primary hafter rest, hprimary⟩⟩
    rw [List.cons_append, parseOperand_sign, hsigned]
    rfl
  | cons second more ihmore =>
    intro tokens rest fuel htokens hrest hfuel
    rw [tokens_signed] at htokens
    obtain ⟨⟨_, position⟩, after, rfl, rfl, hafter⟩ := List.map_eq_cons_iff.1 htokens
    simp only [depthPerToken, List.length_cons] at hfuel
    obtain ⟨fuel, rfl⟩ : ∃ n, fuel = n + 2 := ⟨fuel - 2, by omega⟩
    have hinner : parseOperand fuel (after ++ rest) =
        .ok ((signed second more primary).tree id, rest) :=
      ihmore second (by rw [tokens_signed]; exact hafter) hrest (by rw [depthPerToken]; omega)
    -- The next token is a sign again, so the operand behind this sign is parsed, not a primary.
    have hsecond : ¬ Clear (.sign second) (after ++ rest) := by
      obtain ⟨⟨_, position'⟩, tail, rfl, rfl, -⟩ := List.map_eq_cons_iff.1 hafter
      exact fun h => clear_mark_cons.1 h rfl
    have hsigned := (parseSigned_eq_ok_iff fuel).2 ⟨hrest, .inr ⟨⟨second, hsecond⟩, hinner⟩⟩
    rw [List.cons_append, parseOperand_sign, hsigned]
    rfl

/-- A single operand is taken by the parser of products. -/
theorem taken_single {operand : Phrase Float .operand} (ih : operand.Taken) :
    (single operand).Taken := by
  intro tokens rest fuel htokens hrest hfuel
  obtain ⟨fuel, rfl⟩ : ∃ n, fuel = n + 1 :=
    Nat.exists_eq_add_one_of_ne_zero (by omega)
  rw [tokens_single] at htokens
  have hoperand := ih htokens hrest (Nat.le_of_succ_le_succ hfuel)
  refine ⟨1, by omega, ?_⟩
  rw [parseProduct, hoperand]
  rfl

/-- A scaled product is taken by the parser of products. -/
theorem taken_scaled {left : Phrase Float .product} {right : Phrase Float .operand}
    (ihl : left.Taken) (ihr : right.Taken) (mark : Scaling) : (scaled left mark right).Taken := by
  intro tokens rest fuel htokens hrest hfuel
  rw [tokens_scaled] at htokens
  obtain ⟨before, others, rfl, hbefore, hothers⟩ := List.map_eq_append_iff.1 htokens
  obtain ⟨⟨_, position⟩, after, rfl, rfl, hafter⟩ := List.map_eq_cons_iff.1 hothers
  simp only [depthPerToken, List.length_cons, List.length_append] at hfuel
  obtain ⟨calls, hcalls, hleft⟩ :
      ∃ calls ≤ before.length + 1,
        parseProduct fuel (before ++ ((Mark.scaling mark).token, position) :: (after ++ rest)) =
          continueProduct (fuel - calls) (left.tree id) _ :=
    ihl hbefore (clear_mark_cons.2 (by simp)) (by rw [depthPerToken]; omega)
  -- enough calls are left for the operand, because the loop used one a token
  obtain ⟨spare, hspare⟩ : ∃ n, fuel - calls = n + 1 :=
    Nat.exists_eq_add_one_of_ne_zero (by omega)
  have hright : parseOperand spare (after ++ rest) = .ok (right.tree id, rest) :=
    ihr hafter hrest (by rw [depthPerToken]; omega)
  refine ⟨calls + 1, by simp; omega, ?_⟩
  rw [List.append_assoc, List.cons_append, hleft, hspare, continueProduct_scaling, hright,
    show fuel - (calls + 1) = spare by omega]
  rfl

/-- A single product is taken by the parser of sums. -/
theorem taken_term {product : Phrase Float .product} (ih : product.Taken) :
    (term product).Taken := by
  intro tokens rest fuel htokens hpower hscaling hfuel
  obtain ⟨fuel, rfl⟩ : ∃ n, fuel = n + 1 :=
    Nat.exists_eq_add_one_of_ne_zero (by omega)
  rw [tokens_term] at htokens
  obtain ⟨calls, hcalls, hproduct⟩ := ih htokens hpower (Nat.le_of_succ_le_succ hfuel)
  rw [depthPerToken] at hfuel
  obtain ⟨spare, hspare⟩ : ∃ n, fuel - calls = n + 1 :=
    Nat.exists_eq_add_one_of_ne_zero (by omega)
  refine ⟨1, by omega, ?_⟩
  rw [parseSum, hproduct, hspare, continueProduct_of_clear spare hscaling]
  rfl

/-- A longer sum is taken by the parser of sums. -/
theorem taken_summed {left : Phrase Float .sum} {right : Phrase Float .product}
    (ihl : left.Taken) (ihr : right.Taken) (sign : Sign) : (summed left sign right).Taken := by
  intro tokens rest fuel htokens hpower hscaling hfuel
  rw [tokens_summed] at htokens
  obtain ⟨before, others, rfl, hbefore, hothers⟩ := List.map_eq_append_iff.1 htokens
  obtain ⟨⟨_, position⟩, after, rfl, rfl, hafter⟩ := List.map_eq_cons_iff.1 hothers
  simp only [depthPerToken, List.length_cons, List.length_append] at hfuel
  obtain ⟨calls, hcalls, hleft⟩ :
      ∃ calls ≤ before.length + 1,
        parseSum fuel (before ++ ((Mark.sign sign).token, position) :: (after ++ rest)) =
          continueSum (fuel - calls) (left.tree id) _ :=
    ihl hbefore (clear_mark_cons.2 (by simp)) (fun s => clear_mark_cons.2 (by simp))
      (by rw [depthPerToken]; omega)
  obtain ⟨spare, hspare⟩ : ∃ n, fuel - calls = n + 1 :=
    Nat.exists_eq_add_one_of_ne_zero (by omega)
  obtain ⟨inner, hinner, hright⟩ :
      ∃ inner ≤ after.length + 1, parseProduct spare (after ++ rest) =
        continueProduct (spare - inner) (right.tree id) rest :=
    ihr hafter hpower (by rw [depthPerToken]; omega)
  obtain ⟨last, hlast⟩ : ∃ n, spare - inner = n + 1 :=
    Nat.exists_eq_add_one_of_ne_zero (by omega)
  refine ⟨calls + 1, by simp; omega, ?_⟩
  rw [List.append_assoc, List.cons_append, hleft, hspare, continueSum_sign, hright, hlast,
    continueProduct_of_clear last hscaling, show fuel - (calls + 1) = spare by omega]
  rfl

/-- Every phrase is taken by the parser of its category. -/
theorem taken {category : Category} (phrase : Phrase Float category) : phrase.Taken := by
  induction phrase with
  | atom value => exact taken_atom value
  | parens inner ih => exact taken_parens ih
  | plain primary ih => exact taken_plain ih
  | signed first more primary ih => exact taken_signed ih first more
  | power base exponent ihb ihe => exact taken_power ihb ihe
  | single operand ih => exact taken_single ih
  | scaled left mark right ihl ihr => exact taken_scaled ihl ihr mark
  | term product ih => exact taken_term ih
  | summed left sign right ihl ihr => exact taken_summed ihl ihr sign

end Phrase

/-! ## Texts -/

/-- The tokens are those of a sum with this tree. -/
def Derives (tokens : List Token) (e : Expr) : Prop :=
  ∃ sum : Phrase Float .sum, sum.tokens id = tokens ∧ sum.tree id = e

/-- The text is written as tokens that derive this tree. -/
def Writes (text : List Char) (e : Expr) : Prop :=
  ∃ tokens, Lexes text tokens ∧ Derives tokens e

/-- The parser of sums, run on all tokens with the fuel of `parse`, takes exactly those that
derive the tree. -/
theorem parseSum_eq_ok_iff {tokens : List Token} {e : Expr} :
    parseSum (depthPerToken * (tokens.length + 1)) tokens.zipIdx = .ok (e, []) ↔
      Derives tokens e := by
  constructor
  · intro h
    obtain ⟨sum, htree, htokens⟩ := (sound _).sum h
    exact ⟨sum, by simpa using htokens.symm, htree⟩
  · rintro ⟨sum, rfl, rfl⟩
    obtain ⟨calls, hcalls, hsum⟩ :
        ∃ calls ≤ (sum.tokens id).zipIdx.length + 1,
          parseSum (depthPerToken * ((sum.tokens id).length + 1)) ((sum.tokens id).zipIdx ++ []) =
            continueSum (_ - calls) (sum.tree id) [] :=
      sum.taken (by simp) (clear_nil _) (fun s => clear_nil _)
        (by simp [depthPerToken]; omega)
    simp only [List.length_zipIdx, depthPerToken, List.append_nil] at hcalls hsum
    obtain ⟨spare, hspare⟩ : ∃ n, 8 * ((sum.tokens id).length + 1) - calls = n + 1 :=
      Nat.exists_eq_add_one_of_ne_zero (by omega)
    rw [depthPerToken, hsum, hspare, continueSum_of_clear spare fun s => clear_nil _]

/-- What is written with a phrase is parsed as its tree. -/
theorem parse_of_writes {text : List Char} {e : Expr} (h : Writes text e) : parse text = .ok e := by
  obtain ⟨tokens, hlexes, hderives⟩ := h
  rw [parse, tokenize_of_lexes hlexes]
  simp only [bind, Except.bind, parseSum_eq_ok_iff.2 hderives]
  rfl

/-- What is parsed as a tree is written with a phrase of that tree. -/
theorem writes_of_parse {text : List Char} {e : Expr} (h : parse text = .ok e) : Writes text e := by
  obtain ⟨tokens, htokens, h⟩ := exists_of_bind_eq_ok h
  obtain ⟨⟨tree, rest⟩, hsum, hrest⟩ := exists_of_bind_eq_ok h
  rcases rest with _ | ⟨t, rest⟩
  · cases hrest
    exact ⟨tokens, tokenize_eq_ok_iff.1 htokens, parseSum_eq_ok_iff.1 hsum⟩
  · cases hrest

/-- The parser accepts exactly the formulas and gives the tree of each, which is the only one: a
text is cut into tokens in one way, and the tokens derive one tree. Every other text is refused. -/
theorem parse_accepts_exactly (text : List Char) :
    (∀ tokens, tokenize text = .ok tokens ↔ Lexes text tokens) ∧
      (∀ e, parse text = .ok e ↔ ∃ tokens, Lexes text tokens ∧ Derives tokens e) ∧
      (∀ tokens e e', Derives tokens e → Derives tokens e' → e = e') ∧
      (∀ e e', Writes text e → Writes text e' → e = e') ∧
      ((∀ e, ¬ Writes text e) → ∃ error, parse text = .error error) := by
  refine ⟨fun tokens => tokenize_eq_ok_iff, fun e => ⟨writes_of_parse, parse_of_writes⟩, ?_, ?_, ?_⟩
  · intro tokens e e' h h'
    have heq := (parseSum_eq_ok_iff.2 h).symm.trans (parseSum_eq_ok_iff.2 h')
    cases heq
    rfl
  · intro e e' h h'
    exact Except.ok.inj ((parse_of_writes h).symm.trans (parse_of_writes h'))
  · intro hnone
    cases hparse : parse text with
    | error error => exact ⟨error, rfl⟩
    | ok e => exact absurd (writes_of_parse hparse) (hnone e)

end Reticle.Formula
