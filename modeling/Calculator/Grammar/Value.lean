import Calculator.Grammar

/-!
# The value of a tree

When nothing is asked while a tree is evaluated, it has a value of its own, which depends on the
values of its variables alone.  As before, the first failure from the left is that of the whole
tree.
-/

namespace Calculator.Grammar

open Calculator.Evaluation

mutual

/-- The value of a factor, where `look` gives the values of variables. -/
def Factor.value (look : Token → Except Failure Float) : Factor → Except Failure Float
  | .number t _ => numberValue t
  | .variable t _ => look t
  | .call function _ argument .. => (argument.value look).bind (Opener.call function).apply
  | .group _ inner .. => inner.value look

/-- The value of a term. -/
def Term.value (look : Token → Except Failure Float) : Term → Except Failure Float
  | .single factor => factor.value look
  | .joined left op right h =>
    (left.value look).bind fun x => (right.value look).bind (((productOp? op).get h).apply x)

/-- The value of an expression. -/
def Expression.value (look : Token → Except Failure Float) : Expression → Except Failure Float
  | .single term => term.value look
  | .joined left op right h =>
    (left.value look).bind fun x =>
      (right.value look).bind fun y => .ok (((sumOp? op).get h).apply x y)

end

end Calculator.Grammar
