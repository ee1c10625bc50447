import Calculator.Value

/-!
# Events

What the calculator reports about its own work: values that variables were given, results, settings
that were read, and names in the surroundings that it does not know.  Every event has a level, an
origin and a message.
-/

namespace Calculator

/-- How important an event is. -/
inductive Level where
  | debug
  | info
  | warning
  | error
  | critical
deriving Repr, DecidableEq

namespace Level

/-- The name of a level. -/
def name : Level → String
  | debug => "DEBUG"
  | info => "INFO"
  | warning => "WARNING"
  | error => "ERROR"
  | critical => "CRITICAL"

/-- All levels, from the least to the most important. -/
def all : List Level :=
  [debug, info, warning, error, critical]

/-- The level with a given name. -/
def ofName? (name : String) : Option Level :=
  all.find? (·.name = name)

/-- The place of a level among all levels. -/
def rank : Level → Nat
  | debug => 0
  | info => 1
  | warning => 2
  | error => 3
  | critical => 4

end Level

/-- Something the calculator reports. -/
inductive Event where
  /-- A variable was resolved while an expression was evaluated. -/
  | resolved (name : String) (value : Float)
  /-- The user gave a variable a value. -/
  | bound (name : String) (value : Float)
  /-- An expression of so many tokens was evaluated. -/
  | evaluated (count : Nat) (value : Float)
  /-- A command could not evaluate its expression. -/
  | failed (source message : String)
  /-- Settings were read from a file. -/
  | loaded (path : String)
  /-- The environment has a name that is not known. -/
  | unknownEnvironment (name : String)
  /-- A level has a name that is not known. -/
  | unknownLevel (name : String)
deriving Repr, DecidableEq

namespace Event

/-- The level of an event. -/
def level : Event → Level
  | resolved .. | bound .. | evaluated .. | failed .. | loaded _ => .debug
  | unknownEnvironment _ | unknownLevel _ => .warning

/-- The name of the part of the calculator that reports an event. -/
def origin : Event → String
  | resolved .. | evaluated .. => "reckon.core.expression_lang.evaluator"
  | bound .. => "reckon.core.expression_lang.resolvers"
  | failed .. => "reckon.cli.expression"
  | loaded _ => "reckon.cli.utils"
  | unknownEnvironment _ | unknownLevel _ => "reckon.core.environment"

/-- The message of an event. -/
def message : Event → String
  | resolved name value => "Resolved " ++ name ++ " = " ++ numberText value
  | bound name value => "Bound variable " ++ name ++ " = " ++ numberText value
  | evaluated count value =>
    "Evaluated " ++ toString count ++ " tokens to " ++ numberText value
  | failed source message => "Evaluation of " ++ Text.quoted source ++ " failed: " ++ message
  | loaded path => "Loaded configuration from " ++ path
  | unknownEnvironment name =>
    "Unknown RECKON_ENV value '" ++ name ++
      "'. Valid values: development, test, production. Defaulting to development."
  | unknownLevel name => "Ignoring unknown log level '" ++ name ++ "'"

/-- Whether an event is reported when events below the given level are not. -/
def isReported (threshold : Level) (e : Event) : Bool :=
  threshold.rank ≤ e.level.rank

end Event

end Calculator
