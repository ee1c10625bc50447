import Calculator.Calculation
import Calculator.Resolver.Console
import Calculator.Resolver.Exchange

/-!
# Sessions at a console

A console in the hands of a caller, who queries names, evaluates expressions, gets the values known
so far as a table, and changes tables.  Tables are changed in place: they are kept in one store, and
whoever has the place of a table sees and makes its changes.  The console keeps its values in a
table of its own, made as a copy of the one that it is given, and gives away copies only.
-/

namespace Calculator.Console

/-- What a caller does. -/
inductive Act where
  /-- Query a name. -/
  | resolve (name : String)
  /-- Evaluate an expression. -/
  | calculate (source : String)
  /-- Get the values known so far as a table. -/
  | bindings
  /-- Change one of the tables that the caller has.  The first of them is the one that the console
  was made from. -/
  | change (index : Nat) (f : Bindings Value → Bindings Value)

/-- Whether an act makes queries. -/
def Act.isQuery : Act → Bool
  | resolve _ | calculate _ => true
  | bindings | change .. => false

/-- A console in use. -/
structure Session where
  /-- All tables. -/
  tables : List (Bindings Value)
  /-- The place of the table in which the console keeps its values. -/
  own : Nat
  /-- The places of the tables that the caller has. -/
  held : List Nat
  answers : List String
  asked : Array String := #[]
  own_lt : own < tables.length
  /-- The caller does not have the table of the console. -/
  own_notMem : own ∉ held

namespace Session

/-- The console as it stands. -/
def console (s : Session) : Console where
  known := s.tables.get ⟨s.own, s.own_lt⟩
  answers := s.answers
  asked := s.asked

/-- A console made from a table, with the answers still to come. -/
def start (preset : Bindings Value) (answers : List String) : Session where
  tables := [preset, preset]
  own := 1
  held := [0]
  answers := answers
  own_lt := Nat.lt_succ_self 1
  own_notMem := by simp

/-- The session with its console in another state. -/
def withConsole (s : Session) (c : Console) : Session where
  tables := s.tables.set s.own c.known
  own := s.own
  held := s.held
  answers := c.answers
  asked := c.asked
  own_lt := by
    rw [List.length_set]
    exact s.own_lt
  own_notMem := s.own_notMem

/-- The session in which the caller has a copy of the console's table as well. -/
def withCopy (s : Session) : Session where
  tables := s.tables ++ [s.console.known]
  own := s.own
  held := s.held ++ [s.tables.length]
  answers := s.answers
  asked := s.asked
  own_lt := by
    rw [List.length_append]
    exact Nat.lt_add_right _ s.own_lt
  own_notMem := by
    rw [List.mem_append, List.mem_singleton]
    exact fun h => h.elim s.own_notMem (Nat.ne_of_lt s.own_lt)

/-- The session with the table at a place changed. -/
def withChange (s : Session) (place : Nat) (f : Bindings Value → Bindings Value) : Session where
  tables := s.tables.modify place f
  own := s.own
  held := s.held
  answers := s.answers
  asked := s.asked
  own_lt := by
    rw [List.length_modify]
    exact s.own_lt
  own_notMem := s.own_notMem

/-- The session behind an act of the caller. -/
def act (limit : Nat) (s : Session) : Act → Session
  | .resolve name => s.withConsole (resolver.resolve s.console name).state
  | .calculate source => s.withConsole (calculateWithin resolver limit s.console source).log.state
  | .bindings => s.withCopy
  | .change index f =>
    match s.held[index]? with
    | some place => s.withChange place f
    | none => s

/-- The names that are queried in an act. -/
def queried (limit : Nat) (s : Session) : Act → List String
  | .resolve name => [name]
  | .calculate source =>
    (calculateWithin resolver limit s.console source).log.queries.toList
  | .bindings | .change .. => []

/-- The session behind several acts. -/
def acts (limit : Nat) (s : Session) : List Act → Session
  | [] => s
  | act :: rest => (s.act limit act).acts limit rest

/-- All queries that are made in several acts. -/
def history (limit : Nat) (s : Session) : List Act → List (Exchange Console)
  | [] => []
  | act :: rest =>
    resolver.exchanges s.console (s.queried limit act) ++ (s.act limit act).history limit rest

end Session

end Calculator.Console
