import Calculator.Grammar

/-!
# Substitution

Factors may be put in the place of the variables of a tree (`Expression.substitute`), and tokens in
parentheses in the place of variable tokens (`substituted`).
-/

namespace Calculator.Grammar

mutual

/-- The factor with each of its variables replaced by a factor. -/
def Factor.substitute (f : (t : Token) → t.kind = .variable → Factor) : Factor → Factor
  | .number t h => .number t h
  | .variable t h => f t h
  | .call function opening argument closing h ho hc =>
    .call function opening (argument.substitute f) closing h ho hc
  | .group opening inner closing ho hc => .group opening (inner.substitute f) closing ho hc

/-- The term with each of its variables replaced by a factor. -/
def Term.substitute (f : (t : Token) → t.kind = .variable → Factor) : Term → Term
  | .single factor => .single (factor.substitute f)
  | .joined left op right h => .joined (left.substitute f) op (right.substitute f) h

/-- The expression with each of its variables replaced by a factor. -/
def Expression.substitute (f : (t : Token) → t.kind = .variable → Factor) :
    Expression → Expression
  | .single term => .single (term.substitute f)
  | .joined left op right h => .joined (left.substitute f) op (right.substitute f) h

end

/-- The tokens with `body` in parentheses in the place of each variable of the given name.  The
parentheses may be different ones for each of the variables. -/
def substituted (name : String) (opening closing : Token → Token) (body ts : List Token) :
    List Token :=
  ts.flatMap fun t =>
    if t.kind = .variable ∧ t.text = name then opening t :: body ++ [closing t] else [t]

end Calculator.Grammar
