import Calculator.Evaluation
import Calculator.Token.Lexer

/-!
# Calculating

An expression given as a text is split into tokens and evaluated.  Errors with a position show the
line of the text they are about.
-/

namespace Calculator

open Evaluation

variable {σ : Type}

/-- Evaluates an expression with at most `limit` parentheses open at once. -/
def calculateWithin (R : Resolver σ) (limit : Nat) (state : σ) (source : String) : Outcome σ :=
  match Token.ofText source with
  | .ok tokens =>
    let outcome := evaluate R limit state tokens
    { outcome with result := outcome.result.mapError (Failure.attachSource source) }
  | .error e => ⟨.error (.error (e.attachSource source)), 0, { state }⟩

end Calculator
