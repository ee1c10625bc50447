import Calculator.Event
import Calculator.Text.Blank
import Calculator.Text.Casing

/-!
# Surroundings

Two variables of the surroundings choose how much is reported: `RECKON_ENV` names the environment
the calculator runs in and with it a default level, and `RECKON_LOG_LEVEL` names a level.  Names
that are not known are passed over with a warning.
-/

namespace Calculator

/-- The environments the calculator may run in. -/
inductive Environment where
  | development
  | test
  | production
deriving Repr, DecidableEq

namespace Environment

/-- The name of an environment. -/
def name : Environment → String
  | development => "development"
  | test => "test"
  | production => "production"

/-- The environment with a given name or short name; without a name it is development. -/
def ofName? (name : String) : Option Environment :=
  if name ∈ ["production", "prod"] then some production
  else if name ∈ ["test", "testing"] then some test
  else if name ∈ ["development", "dev", ""] then some development
  else none

/-- The level at which an environment reports unless told otherwise. -/
def level : Environment → Level
  | production => .warning
  | development | test => .info

end Environment

/-- The level that a text names: in any case and with blanks around it. -/
def Level.ofText? (text : String) : Option Level :=
  Level.ofName? (Text.strip (Text.toUpper text))

/-- The variables of the surroundings, each if it is set. -/
structure Surroundings where
  /-- The value of `RECKON_ENV`. -/
  environmentName : Option String := none
  /-- The value of `RECKON_LOG_LEVEL`. -/
  levelName : Option String := none
deriving Repr, DecidableEq

namespace Surroundings

/-- The environment, and a warning if its name is not known. -/
def environment (s : Surroundings) : Environment × List Event :=
  let name := Text.strip (Text.toLower (s.environmentName.getD ""))
  match Environment.ofName? name with
  | some environment => (environment, [])
  | none => (.development, [.unknownEnvironment name])

/-- The level of the environment, and the warnings about its name. -/
def defaultLevel (s : Surroundings) : Level × List Event :=
  (s.environment.1.level, s.environment.2)

/-- The level that the first good one of the candidates names, and a warning for each bad one
before it.  Empty candidates are passed over in silence; without a good candidate the level is the
default one. -/
def firstLevel (s : Surroundings) : List (Option String) → Level × List Event
  | [] => s.defaultLevel
  | none :: candidates | some "" :: candidates => s.firstLevel candidates
  | some name :: candidates =>
    match Level.ofText? name with
    | some level => (level, [])
    | none =>
      let (level, warnings) := s.firstLevel candidates
      (level, .unknownLevel name :: warnings)

/-- The level to report at: the one asked for on the command line, else that of the surroundings,
else that of the settings. -/
def level (s : Surroundings) (commandLine settings : Option String) : Level × List Event :=
  s.firstLevel [commandLine, s.levelName, settings]

end Surroundings

end Calculator
