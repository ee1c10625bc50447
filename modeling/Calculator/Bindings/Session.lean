import Calculator.Calculation
import Calculator.Limits

/-!
# Sessions with a table

A table in the hands of a caller, who binds names, queries them, evaluates expressions, has the
table shown, and changes the table that this one was made from.  Tables are changed in place: they
are kept in one store, and whoever has the place of a table sees and makes its changes.  The values
are kept in a table of their own, made as a copy of the one that is given.
-/

namespace Calculator.Bindings

/-- What a caller does. -/
inductive Act where
  /-- Bind a name to the number that a value stands for. -/
  | bind (name : String) (value : Value)
  /-- Query a name. -/
  | resolve (name : String)
  /-- Evaluate an expression. -/
  | calculate (source : String)
  /-- Have the table shown. -/
  | render
  /-- Change the table that this one was made from. -/
  | change (f : Bindings Value → Bindings Value)

/-- What a caller gets. -/
inductive Answer where
  | done
  | value (v : Value)
  | number (x : Float)
  | text (s : String)

/-- A table as it is shown, unless it holds a value that cannot be shown. -/
def shown (limits : Limits) (b : Bindings Value) : Except Fault String :=
  match (Value.table b.entries).hindrance? limits.shown with
  | none => .ok b.render
  | some fault => .error fault

/-- A table in use. -/
structure Session where
  /-- All tables. -/
  tables : List (Bindings Value)
  /-- The place of the table in which the values are kept. -/
  own : Nat
  /-- The place of the table that it was made from, which the caller has. -/
  given : Nat
  own_lt : own < tables.length
  /-- The caller does not have the table in which the values are kept. -/
  given_ne : given ≠ own

namespace Session

/-- The table in which the values are kept, as it stands. -/
def table (s : Session) : Bindings Value :=
  s.tables.get ⟨s.own, s.own_lt⟩

/-- A session with a table made from the given one. -/
def start (initial : Bindings Value) : Session where
  tables := [initial, initial]
  own := 0
  given := 1
  own_lt := Nat.zero_lt_two
  given_ne := Nat.one_ne_zero

/-- The session with another table of values. -/
def withTable (s : Session) (b : Bindings Value) : Session where
  tables := s.tables.set s.own b
  own := s.own
  given := s.given
  own_lt := by
    rw [List.length_set]
    exact s.own_lt
  given_ne := s.given_ne

/-- The session with the caller's table changed. -/
def withChange (s : Session) (f : Bindings Value → Bindings Value) : Session where
  tables := s.tables.modify s.given f
  own := s.own
  given := s.given
  own_lt := by
    rw [List.length_modify]
    exact s.own_lt
  given_ne := s.given_ne

/-- What the caller gets for an act, and the session behind it. -/
def act (limits : Limits) (s : Session) : Act → Except Failure Answer × Session
  | .bind name value =>
    match s.table.bind name value with
    | .ok b => (.ok .done, s.withTable b)
    | .error fault => (.error (.fault fault), s)
  | .resolve name =>
    let reply := Resolver.table.resolve s.table name
    (reply.answer.map .value, s.withTable reply.state)
  | .calculate source =>
    let outcome := calculateWithin Resolver.table limits.parentheses s.table source
    (outcome.result.map .number, s.withTable outcome.log.state)
  | .render => (((s.table.shown limits).mapError .fault).map .text, s)
  | .change f => (.ok .done, s.withChange f)

/-- The session behind several acts. -/
def acts (limits : Limits) (s : Session) : List Act → Session
  | [] => s
  | act :: rest => (s.act limits act).2.acts limits rest

end Session

end Calculator.Bindings
