import Reticle.Formula.Expr
import Reticle.Formula.Token

/-!
# Parsing formulas

The grammar, loosest binding first:

* a sum is products joined by plus and minus signs,
* a product is operands joined by multiplication and division signs,
* an operand is a primary with any number of signs before it, or a primary that may be raised to
  the power of an operand,
* a primary is a number or a sum in parentheses.

Sums and products group to the left, powers to the right. An operand with a sign cannot be raised
to a power. Every parser takes the tokens with their positions and returns what it leaves over;
`fuel` bounds the depth of the calls, and `parse` gives enough of it for every text.
-/

namespace Reticle.Formula

/-- Tokens with their positions in the formula. -/
abbrev Tokens := List (Token × Nat)

/-- What a parser does: an expression and the tokens after it, or an error. -/
abbrev Parsed := Except FormulaError (Expr × Tokens)

/-- The error of tokens that do not start as they should. -/
def unexpected : Tokens → FormulaError
  | [] => .unexpectedEnd
  | (_, position) :: _ => .unexpectedToken position

mutual

/-- Products, joined by plus and minus signs. -/
def parseSum : Nat → Tokens → Parsed
  | 0, tokens => .error (unexpected tokens)
  | fuel + 1, tokens => do
    let (first, rest) ← parseProduct fuel tokens
    continueSum fuel first rest

/-- More products after a sum. -/
def continueSum : Nat → Expr → Tokens → Parsed
  | 0, _, tokens => .error (unexpected tokens)
  | fuel + 1, left, (.plus, _) :: rest => do
    let (right, rest) ← parseProduct fuel rest
    continueSum fuel (.add left right) rest
  | fuel + 1, left, (.minus, _) :: rest => do
    let (right, rest) ← parseProduct fuel rest
    continueSum fuel (.sub left right) rest
  | _ + 1, left, rest => .ok (left, rest)

/-- Operands, joined by multiplication and division signs. -/
def parseProduct : Nat → Tokens → Parsed
  | 0, tokens => .error (unexpected tokens)
  | fuel + 1, tokens => do
    let (first, rest) ← parseOperand fuel tokens
    continueProduct fuel first rest

/-- More operands after a product. -/
def continueProduct : Nat → Expr → Tokens → Parsed
  | 0, _, tokens => .error (unexpected tokens)
  | fuel + 1, left, (.star, _) :: rest => do
    let (right, rest) ← parseOperand fuel rest
    continueProduct fuel (.mul left right) rest
  | fuel + 1, left, (.slash, _) :: rest => do
    let (right, rest) ← parseOperand fuel rest
    continueProduct fuel (.div left right) rest
  | _ + 1, left, rest => .ok (left, rest)

/-- A primary with signs before it, or one that may be raised to a power. -/
def parseOperand : Nat → Tokens → Parsed
  | 0, tokens => .error (unexpected tokens)
  | fuel + 1, (.plus, _) :: rest => parseSigned fuel rest
  | fuel + 1, (.minus, _) :: rest => do
    let (inner, rest) ← parseSigned fuel rest
    return (.neg inner, rest)
  | fuel + 1, tokens => do
    let (base, rest) ← parsePrimary fuel tokens
    match rest with
    | (.power, _) :: rest =>
      let (exponent, rest) ← parseOperand fuel rest
      return (.pow base exponent, rest)
    | rest => return (base, rest)

/-- What follows a sign: a primary, perhaps with more signs, that is not raised to a power. -/
def parseSigned : Nat → Tokens → Parsed
  | 0, tokens => .error (unexpected tokens)
  | fuel + 1, tokens => do
    let (operand, rest) ←
      match tokens with
      | (.plus, _) :: _ | (.minus, _) :: _ => parseOperand fuel tokens
      | _ => parsePrimary fuel tokens
    match rest with
    | (.power, _) :: _ => throw .signedPowerBase
    | rest => return (operand, rest)

/-- A number, or a sum in parentheses. -/
def parsePrimary : Nat → Tokens → Parsed
  | 0, tokens => .error (unexpected tokens)
  | _ + 1, (.number value, _) :: rest => .ok (.number value, rest)
  | fuel + 1, (.opening, _) :: rest => do
    let (inner, rest) ← parseSum fuel rest
    match rest with
    | (.closing, _) :: rest => return (inner, rest)
    | rest => throw (unexpected rest)
  | _ + 1, tokens => .error (unexpected tokens)

end

/-- Calls that can pass between two tokens being taken, one more than the longest chain of them. -/
def depthPerToken : Nat :=
  8

/-- The expression that a text writes. -/
def parse (text : List Char) : Except FormulaError Expr := do
  let tokens ← tokenize text
  let (expr, rest) ← parseSum (depthPerToken * (tokens.length + 1)) tokens.zipIdx
  if rest.isEmpty then return expr else throw (unexpected rest)

end Reticle.Formula
