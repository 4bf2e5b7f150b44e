/-!
# Arithmetic expressions

The expression tree of a numeric field, with its value in doubles.
-/

namespace Reticle

/-- An arithmetic expression. -/
inductive Expr
  | number (value : Float)
  | neg (inner : Expr)
  | add (left right : Expr)
  | sub (left right : Expr)
  | mul (left right : Expr)
  | div (left right : Expr)
  | pow (base exponent : Expr)
deriving Repr, Inhabited

namespace Expr

/-- The value of an expression. -/
def eval : Expr → Float
  | number value => value
  | neg inner => -inner.eval
  | add left right => left.eval + right.eval
  | sub left right => left.eval - right.eval
  | mul left right => left.eval * right.eval
  | div left right => left.eval / right.eval
  | pow base exponent => base.eval.pow exponent.eval

end Expr

end Reticle
