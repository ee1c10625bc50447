import Calculator.Resolver
import Calculator.Text.Blank

/-!
# Asking the user

A console asks for a name the first time it is needed and remembers the answer.  An answer that is
no number, or no answer at all, fails the query and is not remembered, so the next query of the
same name asks again.
-/

namespace Calculator

/-- A user at a console: the values known so far, the answers still to come, and the prompts that
were shown. -/
structure Console where
  known : Bindings Value := .empty
  answers : List String := []
  asked : Array String := #[]

namespace Console

/-- The prompt for the value of a variable. -/
def prompt (name : String) : String :=
  "Enter value for variable " ++ name ++ ": "

/-- Asks for a name that is not known. -/
def ask (console : Console) (name : String) : Reply Console :=
  let asked := console.asked.push (prompt name)
  match console.answers with
  | [] => { answer := .error (.unresolved name .noAnswer), state := { console with asked } }
  | answer :: answers =>
    let text := Text.strip answer
    match Decimal.float? text with
    | none =>
      { answer := .error (.unresolved name (.badAnswer text))
        state := { console with answers, asked } }
    | some x =>
      { answer := .ok (.float x)
        state := { known := console.known.insert name (.float x), answers, asked }
        events := [.bound name x] }

/-- Answers from what is known, and otherwise asks. -/
def resolver : Resolver Console where
  resolve console name :=
    match console.known.get? name with
    | some value => { answer := .ok value, state := console }
    | none => console.ask name

end Console

end Calculator
