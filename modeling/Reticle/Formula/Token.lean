import Reticle.Number.Decimal

/-!
# Tokens of formulas

A formula is cut into numbers, operators and parentheses; blanks between them do not count. A
number is a maximal run of digits and points that reads as a decimal, two stars are always one
power sign, and two equal signs without a gap are refused.
-/

namespace Reticle

/-- Why a text is no formula. -/
inductive FormulaError
  | unexpectedChar (c : Char)
  | invalidNumber (literal : String)
  /-- The token with this index does not fit. -/
  | unexpectedToken (position : Nat)
  | unexpectedEnd
  | signedPowerBase
deriving DecidableEq, Repr

/-- The text shown for an error. -/
def FormulaError.message : FormulaError → String
  | unexpectedChar c => "unexpected character `" ++ c.toString ++ "`"
  | invalidNumber literal => "invalid number literal `" ++ literal ++ "`"
  | unexpectedToken position => "unexpected token at position " ++ toString position
  | unexpectedEnd => "expression ended unexpectedly"
  | signedPowerBase => "a signed operand cannot be raised to a power"

namespace Formula

/-- The smallest part of a formula with a meaning of its own. -/
inductive Token
  | number (value : Float)
  | plus
  | minus
  | star
  | slash
  | power
  | opening
  | closing
deriving Repr, Inhabited

/-- The token of one character. -/
def Token.ofChar? : Char → Option Token
  | '+' => some .plus
  | '-' => some .minus
  | '*' => some .star
  | '/' => some .slash
  | '(' => some .opening
  | ')' => some .closing
  | _ => none

/-- Whether a character can be part of a number. -/
def isNumberChar (c : Char) : Bool :=
  c.isDigit || c == '.'

/-- The token of a run of digits and points; no run, no token. -/
def numberTokens (run : List Char) : Except FormulaError (List Token) :=
  if run.isEmpty then .ok []
  else
    match Number.readPlain run with
    | some value => .ok [.number value]
    | none => .error (.invalidNumber (.ofList run))

/-- The tokens of a text that continues a run of digits and points. -/
def tokensAfter (run : List Char) : List Char → Except FormulaError (List Token)
  | [] => numberTokens run
  | '*' :: '*' :: rest => do
    let before ← numberTokens run
    return before ++ .power :: (← tokensAfter [] rest)
  | c :: rest =>
    if isNumberChar c then tokensAfter (run ++ [c]) rest
    else do
      let before ← numberTokens run
      if Text.isBlank c then
        return before ++ (← tokensAfter [] rest)
      else if (c == '+' || c == '-') && rest.head? == some c then
        throw (.unexpectedChar c)
      else
        match Token.ofChar? c with
        | some token => return before ++ token :: (← tokensAfter [] rest)
        | none => throw (.unexpectedChar c)

/-- The tokens of a text. -/
def tokenize (text : List Char) : Except FormulaError (List Token) :=
  tokensAfter [] text

end Formula

end Reticle
