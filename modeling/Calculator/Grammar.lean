import Calculator.Evaluation

/-!
# The grammar of expressions

The trees of the grammar.  A tree keeps every token it is built from, parentheses and operators
included, so that `Expression.tokens` gives the tokens back; a list of tokens is an expression if
some tree has it as its tokens.  A chain of operators of one strength is a tree that grows to the
left: the last operator joins everything before it with the last operand.
-/

namespace Calculator.Grammar

open Calculator.Evaluation

mutual

/-- A number, a variable, a function with its argument, or an expression in parentheses. -/
inductive Factor where
  | number (t : Token) (h : t.kind = .number)
  | variable (t : Token) (h : t.kind = .variable)
  | call (function opening : Token) (argument : Expression) (closing : Token)
      (h : function.kind = .function) (ho : opening.kind = .lparen) (hc : closing.kind = .rparen)
  | group (opening : Token) (inner : Expression) (closing : Token) (ho : opening.kind = .lparen)
      (hc : closing.kind = .rparen)

/-- One factor, or a term joined with one more factor. -/
inductive Term where
  | single (factor : Factor)
  | joined (left : Term) (op : Token) (right : Factor) (h : (productOp? op).isSome)

/-- One term, or an expression joined with one more term. -/
inductive Expression where
  | single (term : Term)
  | joined (left : Expression) (op : Token) (right : Term) (h : (sumOp? op).isSome)

end

/-! ### The tokens of a tree -/

mutual

/-- The tokens of a factor. -/
def Factor.tokens : Factor → List Token
  | .number t _ | .variable t _ => [t]
  | .call function opening argument closing .. =>
    function :: opening :: argument.tokens ++ [closing]
  | .group opening inner closing .. => opening :: inner.tokens ++ [closing]

/-- The tokens of a term. -/
def Term.tokens : Term → List Token
  | .single factor => factor.tokens
  | .joined left op right _ => left.tokens ++ op :: right.tokens

/-- The tokens of an expression. -/
def Expression.tokens : Expression → List Token
  | .single term => term.tokens
  | .joined left op right _ => left.tokens ++ op :: right.tokens

end

/-! ### How deeply a tree is nested -/

mutual

/-- The largest number of parentheses around a part of a factor. -/
def Factor.depth : Factor → Nat
  | .number .. | .variable .. => 0
  | .call _ _ argument .. => argument.depth + 1
  | .group _ inner .. => inner.depth + 1

/-- The largest number of parentheses around a part of a term. -/
def Term.depth : Term → Nat
  | .single factor => factor.depth
  | .joined left _ right _ => max left.depth right.depth

/-- The largest number of parentheses around a part of an expression. -/
def Expression.depth : Expression → Nat
  | .single term => term.depth
  | .joined left _ right _ => max left.depth right.depth

end

end Calculator.Grammar
