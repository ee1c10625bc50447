import Calculator.Resolver.Console
import Calculator.Resolver.Script

/-!
# Any source of variables

The resolvers of this library as one: a fixed table, a user at a console, or a script.
-/

namespace Calculator

/-- Where the values of variables come from. -/
inductive Source where
  | table (bindings : Bindings Value)
  | console (console : Console)
  | script (script : Script)

namespace Source

/-- Answers as the resolver of the source does. -/
def resolver : Resolver Source where
  resolve source name :=
    match source with
    | table bindings =>
      let reply := Resolver.table.resolve bindings name
      { answer := reply.answer, state := table reply.state, events := reply.events }
    | console state =>
      let reply := Console.resolver.resolve state name
      { answer := reply.answer, state := console reply.state, events := reply.events }
    | script state =>
      let reply := Script.resolver.resolve state name
      { answer := reply.answer, state := script reply.state, events := reply.events }

/-- The prompts that were shown, or the names that a script was asked for. -/
def asked : Source → Array String
  | table _ => #[]
  | console state => state.asked
  | script state => state.asked

/-- The source with the record of what was asked wiped clean. -/
def forgetAsked : Source → Source
  | table bindings => table bindings
  | console state => console { state with asked := #[] }
  | script state => script { state with asked := #[] }

end Source

end Calculator
