import Calculator.Resolver.Console

/-!
# Valuations

A valuation fixes the value of each name, or why it has none.  It gives the same answer to every
query of a name, whatever else is queried.
-/

namespace Calculator

/-- The value of each name, or why it has none. -/
abbrev Valuation : Type :=
  String → Except Error.Want Value

/-- Answers from a valuation. -/
def Valuation.resolver (v : Valuation) : Resolver Unit where
  resolve _ name := { answer := (v name).mapError (Failure.unresolved name), state := () }

namespace Console

/-- The number that an answer stands for, or why there is none. -/
def typed : Option String → Except Error.Want Float
  | none => .error .noAnswer
  | some answer =>
    let text := Text.strip answer
    match Decimal.float? text with
    | some x => .ok x
    | none => .error (.badAnswer text)

/-- The value typed for a name, if the names that were asked for were answered in their order. -/
def typedFor (asked answers : List String) (name : String) : Except Error.Want Value :=
  match asked.idxOf? name with
  | some i => (typed answers[i]?).map .float
  | none => .error .undefined

/-- The values that a console gives if it asks for the given names in their order. -/
def valuation (c : Console) (asked : List String) : Valuation := fun name =>
  match c.known.get? name with
  | some v => .ok v
  | none => typedFor asked c.answers name

end Console

end Calculator
