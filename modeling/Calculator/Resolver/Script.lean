import Calculator.Resolver

/-!
# Answering by a script

A script plays one step for each query, whatever the name, and notes the names it was asked for.
-/

namespace Calculator

/-- The steps still to be played and the names asked so far. -/
structure Script where
  steps : List (Except Failure Value) := []
  asked : Array String := #[]

namespace Script

/-- Plays the next step; without one the name counts as a missing key. -/
def resolver : Resolver Script where
  resolve script name :=
    let asked := script.asked.push name
    match script.steps with
    | [] =>
      { answer := .error (.fault (.ofValues .missingKey [.text name]))
        state := { script with asked } }
    | step :: steps => { answer := step, state := { steps, asked } }

end Script

end Calculator
