import Calculator.Error
import Calculator.Event
import Calculator.Text.Shown

/-!
# Reports

A run of the program leaves a report: what was printed, how it ended, and what was reported at which
level.  A run ends well, with an error that the user is told about, with a usage error, or with a
fault that ends the program.
-/

namespace Calculator.Command

/-- What a run of the program leaves. -/
structure Report where
  /-- The prompts that were shown, each of which waited for a line of input. -/
  prompts : List String := []
  /-- What was printed behind the prompts. -/
  closing : String := ""
  /-- What the user is told apart from that, when the arguments were wrong. -/
  complaint : String := ""
  /-- The number that tells how the run ended. -/
  exit : Nat := 0
  /-- The level in force at the end. -/
  level : Level := .warning
  /-- What was reported, at or above the level that was then in force. -/
  events : List Event := []
  /-- The fault that ended the program. -/
  fault : Option Fault := none
deriving Repr, DecidableEq

namespace Report

/-- All that was printed. -/
def output (r : Report) : String :=
  String.join r.prompts ++ r.closing

/-- The report of a run that printed something and ended well. -/
def success (closing : String) : Report :=
  { closing }

/-- The report of a run that ended with an error. -/
def failure (message : String) : Report :=
  { closing := Text.shown ("Error: " ++ message) ++ "\n", exit := 1 }

/-- The report of a run whose arguments were wrong. -/
def usage (complaint : String) : Report :=
  { complaint, exit := 2 }

/-- The report of a run that a fault ended. -/
def crash (fault : Fault) : Report :=
  { exit := 1, fault := some fault }

/-- The report of a failure, whose error has the given message. -/
def ofFailure (message : Error → String) : Failure → Report
  | .error e => failure (message e)
  | .fault f => crash f

/-- The report with more prompts in front of what was printed. -/
def after (r : Report) (prompts : List String) : Report :=
  { r with prompts := prompts ++ r.prompts }

/-- The report with the level in force, below which later events were not reported, and with what
was reported earlier. -/
def within (r : Report) (level : Level) (earlier : List Event) : Report :=
  { r with level, events := earlier ++ r.events.filter (·.isReported level) }

end Report

end Calculator.Command
