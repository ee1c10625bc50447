import Calculator.Calculation
import Calculator.Command.Site
import Calculator.Resolver.Source
import Calculator.Token.Table
import Calculator.Version

/-!
# Running the program

`run` does what the arguments of the program ask for.  A command reads its configuration first, then
sets the level to report at, and only then looks at assignments and expressions; the first of these
that goes wrong ends the run.

The commands `eval` and `prompt` differ in where their expression comes from: from the arguments, or
from the first line of the input.
-/

namespace Calculator.Command

/-! ### Setting up -/

/-- The settings that a configuration file makes, or the settings without one. -/
def settingsOf (limits : Limits) : Option (String × ByteArray) → Except Report Settings
  | some (path, bytes) =>
    (Settings.ofBytes limits path bytes).mapError (Report.ofFailure Error.message)
  | none => .ok {}

/-- The event that settings were read. -/
def loadedEvents (settings : Settings) : List Event :=
  (settings.path.map Event.loaded).toList

/-- The report of a task that is done with its settings, once these are read and the level is
set. -/
def Site.withSettings (site : Site) (levelName config : Option String)
    (task : Settings → Report) : Report :=
  match (site.config? config).bind (settingsOf site.limits) with
  | .error report => report
  | .ok settings =>
    let (level, warnings) := site.surroundings.level levelName settings.level
    let report := task settings
    { report with events := loadedEvents settings ++ report.events }.within level
      (warnings.filter (·.isReported .warning))

/-! ### Evaluating -/

/-- The values of variables that are known from the start: those of the settings and those
assigned, which win. -/
def known (settings : Settings) (assigned : Bindings Float) : Bindings Value :=
  (settings.bindings.union assigned).map .float

/-- Where the values of variables come from. -/
def sourceOf (settings : Settings) (assigned : Bindings Float) (prompts : Bool)
    (input : List String) : Source :=
  if prompts && settings.prompts then
    .console { known := known settings assigned, answers := input }
  else .table (known settings assigned)

/-- The report of an evaluation. -/
def evaluationReport (limits : Limits) (source : Source) (expression : String) : Report :=
  let outcome := calculateWithin Source.resolver limits.parentheses source expression
  let events := outcome.log.events.toList
  let report : Report :=
    match outcome.result with
    | .ok x => { Report.success ("Result: " ++ numberText x ++ "\n") with events }
    | .error failure =>
      let report := Report.ofFailure Error.text failure
      match failure with
      | .error e => { report with events := events ++ [.failed expression e.message] }
      | .fault _ => { report with events }
  report.after outcome.log.state.asked.toList

/-- The report of an evaluation with settings and assignments. -/
def evalReport (limits : Limits) (settings : Settings) (assignments : List String)
    (prompts : Bool) (expression : String) (input : List String) : Report :=
  match Assignment.bindings assignments with
  | .error flaw => .usage flaw.message
  | .ok assigned =>
    evaluationReport limits (sourceOf settings assigned prompts input) expression

/-! ### The commands -/

/-- The prompt for an expression. -/
def expressionPrompt : String :=
  "Enter expression: "

/-- The report of a run that asks for the expression. -/
def promptReport (limits : Limits) (settings : Settings) (input : List String) : Report :=
  match input with
  | [] => (Report.failure "no expression entered").after [expressionPrompt]
  | expression :: answers =>
    (evaluationReport limits (sourceOf settings .empty true answers) expression).after
      [expressionPrompt]

/-- The report of a run that shows the tokens of an expression. -/
def tokensReport (expression : String) : Report :=
  match Token.ofText expression with
  | .ok tokens => .success (Token.table tokens)
  | .error e => .failure (e.attachSource expression).text

/-- The report of a run that shows the version. -/
def versionReport (site : Site) : Report :=
  .success ("reckon " ++ Version.own ++ "\n" ++ site.machine ++ "\n")

/-- Does what an invocation asks for. -/
def Site.perform (site : Site) (invocation : Invocation) : Report :=
  let withSettings := site.withSettings invocation.levelName invocation.task.config
  match invocation.task with
  | .version => versionReport site
  | .page page => site.pages page
  | .refuse fault => .crash fault
  | .eval expression assignments prompts _ =>
    withSettings fun settings =>
      evalReport site.limits settings assignments prompts expression site.input
  | .prompt _ => withSettings fun settings => promptReport site.limits settings site.input
  | .tokens expression => withSettings fun _ => tokensReport expression

/-- What arguments that make an invocation look like. -/
def usageLine : String :=
  "Usage: reckon [--log-level LEVEL] (eval EXPRESSION | prompt | tokens EXPRESSION)"

/-- Runs the program with the given arguments. -/
def run (site : Site) (arguments : List String) : Report :=
  match Invocation.ofArguments arguments with
  | some invocation => site.perform invocation
  | none => .usage usageLine

end Calculator.Command
