import Calculator.Grammar

/-!
# What a tree means

The value of a tree, from the values of its parts.  The operands of an operator are evaluated from
the left to the right, and a function is looked up when its argument is known.  The first failure is
the failure of the whole tree, and what comes behind it is not evaluated.
-/

namespace Calculator.Grammar

open Calculator.Evaluation

variable {σ : Type}

/-- A value or a failure, and what its evaluation leaves behind. -/
abbrev Meaning (σ : Type) :=
  Except Failure Float × Transcript σ

/-- Goes on with a value; a failure stays as it is. -/
def Meaning.andThen (m : Meaning σ) (f : Float → Transcript σ → Meaning σ) : Meaning σ :=
  match m with
  | (.ok x, log) => f x log
  | (.error e, log) => (.error e, log)

mutual

/-- The value of a factor. -/
def Factor.meaning (R : Resolver σ) (log : Transcript σ) : Factor → Meaning σ
  | .number t _ => (numberValue t, log)
  | .variable t _ => log.query R t
  | .call function _ argument .. =>
    Meaning.andThen (argument.meaning R log) fun x log => ((Opener.call function).apply x, log)
  | .group _ inner .. => inner.meaning R log

/-- The value of a term. -/
def Term.meaning (R : Resolver σ) (log : Transcript σ) : Term → Meaning σ
  | .single factor => factor.meaning R log
  | .joined left op right h =>
    Meaning.andThen (left.meaning R log) fun x log =>
      Meaning.andThen (right.meaning R log) fun y log => (((productOp? op).get h).apply x y, log)

/-- The value of an expression. -/
def Expression.meaning (R : Resolver σ) (log : Transcript σ) : Expression → Meaning σ
  | .single term => term.meaning R log
  | .joined left op right h =>
    Meaning.andThen (left.meaning R log) fun x log =>
      Meaning.andThen (right.meaning R log) fun y log => (.ok (((sumOp? op).get h).apply x y), log)

end

end Calculator.Grammar
