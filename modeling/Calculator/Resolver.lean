import Calculator.Bindings
import Calculator.Error
import Calculator.Event

/-!
# Resolvers

A resolver supplies the values of variables.  It is asked for one name after the other, may answer
or fail as it likes, and carries a state of its own from each query to the next.
-/

namespace Calculator

/-- What a resolver does when it is asked for a name. -/
structure Reply (σ : Type) where
  /-- The value, of any type, or the failure. -/
  answer : Except Failure Value
  /-- The state in which the next query finds the resolver. -/
  state : σ
  /-- What the resolver reports about this query. -/
  events : List Event := []

/-- A source of values for variables with states `σ`. -/
structure Resolver (σ : Type) where
  resolve : σ → String → Reply σ

/-- The failure of a query for a variable without a value. -/
def Failure.unresolved (name : String) (want : Error.Want) : Failure :=
  .error { cause := .unresolvedVariable name want }

/-! ### Fixed tables -/

namespace Resolver

/-- Answers from a table, and changes nothing. -/
def table : Resolver (Bindings Value) where
  resolve bindings name :=
    match bindings.get? name with
    | some value => { answer := .ok value, state := bindings }
    | none => { answer := .error (.unresolved name .undefined), state := bindings }

end Resolver

/-- Binds a name to the number that a value stands for. -/
def Bindings.bind (bindings : Bindings Value) (name : String) (value : Value) :
    Except Fault (Bindings Value) :=
  value.toFloat.map fun x => bindings.insert name (.float x)

/-- A table as it is shown. -/
def Bindings.render (bindings : Bindings Value) : String :=
  "MappingResolver(" ++ (Value.table bindings.entries).render ++ ")"

end Calculator
