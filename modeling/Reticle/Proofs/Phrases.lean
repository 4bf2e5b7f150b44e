import Reticle.Formula.Token
import Reticle.Formula.Expr

/-!
# Phrases

The grammar of formulas as a type: a phrase is a derivation, so that every value of the type is
written as the grammar asks. What the atoms of a phrase are is left open, since the parser only ever
sees numbers, but a rule is written with names as well. A phrase has lexemes, which is how it is
written, and a tree, which is what it means once its atoms have values.
-/

namespace Reticle.Formula

/-! ## Lexemes -/

/-- A sign before an operand or between products. -/
inductive Sign
  | plus
  | minus
deriving DecidableEq

/-- What stands between the operands of a product. -/
inductive Scaling
  | times
  | divide
deriving DecidableEq

/-- A sign before an operand: a minus sign gives a negation, a plus sign gives nothing. -/
def Sign.apply : Sign → Expr → Expr
  | plus, inner => inner
  | minus, inner => .neg inner

/-- A sign between a sum and a product. -/
def Sign.join : Sign → Expr → Expr → Expr
  | plus => .add
  | minus => .sub

/-- What stands between a product and an operand. -/
def Scaling.join : Scaling → Expr → Expr → Expr
  | times => .mul
  | divide => .div

/-- A token that is not a number. -/
inductive Mark
  | sign (s : Sign)
  | scaling (s : Scaling)
  | power
  | opening
  | closing
deriving DecidableEq

/-- A mark as a token. -/
def Mark.token : Mark → Token
  | sign .plus => .plus
  | sign .minus => .minus
  | scaling .times => .star
  | scaling .divide => .slash
  | power => .power
  | opening => .opening
  | closing => .closing

/-- Different marks are different tokens. -/
theorem Mark.token_inj {m n : Mark} : m.token = n.token ↔ m = n := by
  refine ⟨fun h => ?_, congrArg Mark.token⟩
  rcases m with (_ | _) | (_ | _) | _ | _ | _ <;> rcases n with (_ | _) | (_ | _) | _ | _ | _ <;>
    first | rfl | cases h

/-- The smallest part of a phrase. -/
inductive Lexeme (α : Type)
  | atom (a : α)
  | mark (m : Mark)

/-- A lexeme as a token, for given values of the atoms. -/
def Lexeme.token {α : Type} (value : α → Float) : Lexeme α → Token
  | atom a => .number (value a)
  | mark m => m.token

/-! ## The grammar -/

/-- The categories of the grammar, from the loosest binding to the tightest. -/
inductive Category
  | sum
  | product
  | operand
  | primary

/-- The phrases of each category. Sums and products grow to the right by one operand at a time, so
that they group to the left; the exponent of a power is an operand, so that powers group to the
right. -/
inductive Phrase (α : Type) : Category → Type
  | atom (a : α) : Phrase α .primary
  | parens (inner : Phrase α .sum) : Phrase α .primary
  | plain (primary : Phrase α .primary) : Phrase α .operand
  /-- One or more signs before a primary. -/
  | signed (first : Sign) (more : List Sign) (primary : Phrase α .primary) : Phrase α .operand
  | power (base : Phrase α .primary) (exponent : Phrase α .operand) : Phrase α .operand
  | single (operand : Phrase α .operand) : Phrase α .product
  | scaled (left : Phrase α .product) (mark : Scaling) (right : Phrase α .operand) : Phrase α .product
  | term (product : Phrase α .product) : Phrase α .sum
  | summed (left : Phrase α .sum) (sign : Sign) (right : Phrase α .product) : Phrase α .sum

namespace Phrase

variable {α : Type} {category : Category}

/-- How a phrase is written. -/
def lexemes : {category : Category} → Phrase α category → List (Lexeme α)
  | _, atom a => [.atom a]
  | _, parens inner => .mark .opening :: (inner.lexemes ++ [.mark .closing])
  | _, plain primary => primary.lexemes
  | _, signed first more primary => (first :: more).map (.mark ∘ .sign) ++ primary.lexemes
  | _, power base exponent => base.lexemes ++ .mark .power :: exponent.lexemes
  | _, single operand => operand.lexemes
  | _, scaled left mark right => left.lexemes ++ .mark (.scaling mark) :: right.lexemes
  | _, term product => product.lexemes
  | _, summed left sign right => left.lexemes ++ .mark (.sign sign) :: right.lexemes

/-- The tokens of a phrase, for given values of the atoms. -/
def tokens (value : α → Float) (phrase : Phrase α category) : List Token :=
  phrase.lexemes.map (Lexeme.token value)

/-- The tree of a phrase, for given values of the atoms. Parentheses leave no trace in it, and
neither do plus signs before a primary. -/
def tree (value : α → Float) : {category : Category} → Phrase α category → Expr
  | _, atom a => .number (value a)
  | _, parens inner => inner.tree value
  | _, plain primary => primary.tree value
  | _, signed first more primary => (first :: more).foldr Sign.apply (primary.tree value)
  | _, power base exponent => .pow (base.tree value) (exponent.tree value)
  | _, single operand => operand.tree value
  | _, scaled left mark right => mark.join (left.tree value) (right.tree value)
  | _, term product => product.tree value
  | _, summed left sign right => sign.join (left.tree value) (right.tree value)

/-! ### The lexemes and tokens of each phrase -/

/-- A sum in parentheses is written between the two parentheses. -/
theorem lexemes_parens (inner : Phrase α .sum) :
    (parens inner).lexemes = .mark .opening :: (inner.lexemes ++ [.mark .closing]) :=
  rfl

/-- A signed primary is written behind its signs. -/
theorem lexemes_signed (first : Sign) (more : List Sign) (primary : Phrase α .primary) :
    (signed first more primary).lexemes =
      (first :: more).map (.mark ∘ .sign) ++ primary.lexemes :=
  rfl

/-- A power is written with the sign between base and exponent. -/
theorem lexemes_power (base : Phrase α .primary) (exponent : Phrase α .operand) :
    (power base exponent).lexemes = base.lexemes ++ .mark .power :: exponent.lexemes :=
  rfl

/-- A scaling is written between the product and the operand. -/
theorem lexemes_scaled (left : Phrase α .product) (mark : Scaling) (right : Phrase α .operand) :
    (scaled left mark right).lexemes = left.lexemes ++ .mark (.scaling mark) :: right.lexemes :=
  rfl

/-- A sign is written between the sum and the product. -/
theorem lexemes_summed (left : Phrase α .sum) (sign : Sign) (right : Phrase α .product) :
    (summed left sign right).lexemes = left.lexemes ++ .mark (.sign sign) :: right.lexemes :=
  rfl

section Tokens

variable (value : α → Float)

@[simp] theorem tokens_atom (a : α) : (atom a).tokens value = [.number (value a)] :=
  rfl

@[simp] theorem tokens_parens (inner : Phrase α .sum) :
    (parens inner).tokens value =
      Mark.opening.token :: (inner.tokens value ++ [Mark.closing.token]) := by
  simp [tokens, lexemes_parens, Lexeme.token]

@[simp] theorem tokens_plain (primary : Phrase α .primary) :
    (plain primary).tokens value = primary.tokens value :=
  rfl

@[simp] theorem tokens_signed (first : Sign) (more : List Sign) (primary : Phrase α .primary) :
    (signed first more primary).tokens value =
      (first :: more).map (fun s => (Mark.sign s).token) ++ primary.tokens value := by
  simp [tokens, lexemes_signed, Lexeme.token, Function.comp_def]

@[simp] theorem tokens_power (base : Phrase α .primary) (exponent : Phrase α .operand) :
    (power base exponent).tokens value =
      base.tokens value ++ Mark.power.token :: exponent.tokens value := by
  simp [tokens, lexemes_power, Lexeme.token]

@[simp] theorem tokens_single (operand : Phrase α .operand) :
    (single operand).tokens value = operand.tokens value :=
  rfl

@[simp] theorem tokens_scaled (left : Phrase α .product) (mark : Scaling)
    (right : Phrase α .operand) :
    (scaled left mark right).tokens value =
      left.tokens value ++ (Mark.scaling mark).token :: right.tokens value := by
  simp [tokens, lexemes_scaled, Lexeme.token]

@[simp] theorem tokens_term (product : Phrase α .product) :
    (term product).tokens value = product.tokens value :=
  rfl

@[simp] theorem tokens_summed (left : Phrase α .sum) (sign : Sign) (right : Phrase α .product) :
    (summed left sign right).tokens value =
      left.tokens value ++ (Mark.sign sign).token :: right.tokens value := by
  simp [tokens, lexemes_summed, Lexeme.token]

end Tokens

/-- A primary starts with a token that is no sign. -/
theorem tokens_primary_eq_cons (value : α → Float) (primary : Phrase α .primary) :
    ∃ token more, primary.tokens value = token :: more ∧ ∀ s, token ≠ (Mark.sign s).token := by
  cases primary with
  | atom a => exact ⟨_, _, rfl, fun s => by cases s <;> simp [Lexeme.token, Mark.token]⟩
  | parens inner => exact ⟨_, _, rfl, fun s => by cases s <;> simp [Lexeme.token, Mark.token]⟩

/-! ### Atoms -/

/-- Every phrase is written with something. -/
theorem lexemes_ne_nil (phrase : Phrase α category) : phrase.lexemes ≠ [] := by
  induction phrase with
  | atom a => exact List.cons_ne_nil _ _
  | parens inner _ => exact List.cons_ne_nil _ _
  | plain primary ih => exact ih
  | signed first more primary _ => simp [lexemes_signed]
  | power base exponent _ _ => simp [lexemes_power]
  | single operand ih => exact ih
  | scaled left mark right _ _ => simp [lexemes_scaled]
  | term product ih => exact ih
  | summed left sign right _ _ => simp [lexemes_summed]

/-- A phrase of one lexeme is an atom. -/
theorem eq_atom_of_lexemes_eq (value : α → Float) {phrase : Phrase α category} {lexeme : Lexeme α}
    (h : phrase.lexemes = [lexeme]) :
    ∃ a, lexeme = .atom a ∧ phrase.tree value = .number (value a) := by
  induction phrase with
  | atom a => exact ⟨a, (List.singleton_inj.1 h).symm, rfl⟩
  | parens inner _ => simp [lexemes_parens] at h
  | plain primary ih => exact ih h
  | signed first more primary _ => simp [lexemes_signed, primary.lexemes_ne_nil] at h
  | power base exponent _ _ => simp [lexemes_power, List.append_eq_singleton_iff,
      base.lexemes_ne_nil, exponent.lexemes_ne_nil] at h
  | single operand ih => exact ih h
  | scaled left mark right _ _ => simp [lexemes_scaled, List.append_eq_singleton_iff,
      left.lexemes_ne_nil, right.lexemes_ne_nil] at h
  | term product ih => exact ih h
  | summed left sign right _ _ => simp [lexemes_summed, List.append_eq_singleton_iff,
      left.lexemes_ne_nil, right.lexemes_ne_nil] at h

/-- The phrase over numbers that has the values of the atoms in their place. -/
def valued (value : α → Float) : {category : Category} → Phrase α category → Phrase Float category
  | _, atom a => .atom (value a)
  | _, parens inner => .parens (inner.valued value)
  | _, plain primary => .plain (primary.valued value)
  | _, signed first more primary => .signed first more (primary.valued value)
  | _, power base exponent => .power (base.valued value) (exponent.valued value)
  | _, single operand => .single (operand.valued value)
  | _, scaled left mark right => .scaled (left.valued value) mark (right.valued value)
  | _, term product => .term (product.valued value)
  | _, summed left sign right => .summed (left.valued value) sign (right.valued value)

/-- A phrase has the tokens of the phrase with its values put in. -/
theorem tokens_valued (value : α → Float) (phrase : Phrase α category) :
    (phrase.valued value).tokens id = phrase.tokens value := by
  induction phrase with
  | atom a => rfl
  | plain primary ih => exact ih
  | single operand ih => exact ih
  | term product ih => exact ih
  | parens inner ih => rw [valued, tokens_parens, tokens_parens, ih]
  | signed first more primary ih => rw [valued, tokens_signed, tokens_signed, ih]
  | power base exponent ihb ihe => rw [valued, tokens_power, tokens_power, ihb, ihe]
  | scaled left mark right ihl ihr => rw [valued, tokens_scaled, tokens_scaled, ihl, ihr]
  | summed left sign right ihl ihr => rw [valued, tokens_summed, tokens_summed, ihl, ihr]

/-- A phrase has the tree of the phrase with its values put in. -/
theorem tree_valued (value : α → Float) (phrase : Phrase α category) :
    (phrase.valued value).tree id = phrase.tree value := by
  induction phrase with
  | atom a => rfl
  | plain primary ih => exact ih
  | single operand ih => exact ih
  | term product ih => exact ih
  | parens inner ih => exact ih
  | signed first more primary ih => rw [valued, tree, tree, ih]
  | power base exponent ihb ihe => rw [valued, tree, tree, ihb, ihe]
  | scaled left mark right ihl ihr => rw [valued, tree, tree, ihl, ihr]
  | summed left sign right ihl ihr => rw [valued, tree, tree, ihl, ihr]

end Phrase

end Reticle.Formula
