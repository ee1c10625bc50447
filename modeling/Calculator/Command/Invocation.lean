import Calculator.Assignment
import Calculator.Command.Path
import Calculator.Command.Switch

/-!
# Invocations

The arguments of the program name one of its commands and what the command needs, or they ask for
the version or for a page that describes the program.  `Invocation.ofArguments` reads them;
arguments that make no invocation are a usage error.
-/

namespace Calculator.Command

/-! ### What can be asked for -/

/-- A page about the program, which is shown in place of a run of a command. -/
inductive Page where
  /-- What the program is for, shown when there are no arguments at all. -/
  | overview
  /-- Help on the program. -/
  | help
  /-- Help on one of its commands. -/
  | helpOn (command : String)
  /-- What a shell needs to complete arguments, and whether it is installed or just shown. -/
  | completion (installs : Bool)
deriving Repr, DecidableEq

/-- What a run of the program is to do. -/
inductive Task where
  /-- Show the version. -/
  | version
  /-- Show a page about the program. -/
  | page (page : Page)
  /-- Give up the command, whose configuration file stands at a path that is refused. -/
  | refuse (fault : Fault)
  /-- Evaluate an expression. -/
  | eval (expression : String) (assignments : List String) (prompts : Bool)
      (config : Option String)
  /-- Ask for an expression and evaluate it. -/
  | prompt (config : Option String)
  /-- Show the tokens of an expression. -/
  | tokens (expression : String)
deriving Repr, DecidableEq

/-- The configuration file that a task names. -/
def Task.config : Task → Option String
  | .eval _ _ _ config | .prompt config => config
  | .version | .page _ | .refuse _ | .tokens _ => none

/-- A task, and the level at which it is to report. -/
structure Invocation where
  task : Task
  levelName : Option String := none
deriving Repr, DecidableEq

/-! ### Switches -/

/-- A switch in front of the name of a command. -/
inductive ProgramSwitch where
  | version
  | help
  | completion (installs : Bool)
  | level (name : String)

/-- The switches in front of the name of a command. -/
def programSwitches : List (Switch ProgramSwitch) :=
  [⟨"--version", 'v', .plain .version⟩, ⟨"--log-level", none, .valued .level⟩,
   ⟨"--install-completion", none, .plain (.completion true)⟩,
   ⟨"--show-completion", none, .plain (.completion false)⟩, ⟨"--help", none, .plain .help⟩]

/-- The last level among the switches. -/
def lastLevel (given : List ProgramSwitch) : Option String :=
  given.foldl (fun level given => if let .level name := given then some name else level) none

/-- The task of a switch that is looked at before the others. -/
def ProgramSwitch.eager? : ProgramSwitch → Option Task
  | version => some .version
  | help => some (.page .help)
  | completion _ | level _ => none

/-- The task of a switch that takes the place of a command. -/
def ProgramSwitch.task? : ProgramSwitch → Option Task
  | completion installs => some (.page (.completion installs))
  | given => given.eager?

/-- The task that the switches ask for in place of a command: that of the first that is looked at
before the others, or else that of the first that has one. -/
def taskInstead? (given : List ProgramSwitch) : Option Task :=
  (given.findSome? ProgramSwitch.eager?).or (given.findSome? ProgramSwitch.task?)

/-- A switch of a command. -/
inductive TaskSwitch where
  | help
  | assignment (text : String)
  | prompts (on : Bool)
  | config (path : String)

/-- The switch that asks for help on a command. -/
def helpSwitch : Switch TaskSwitch :=
  ⟨"--help", none, .plain .help⟩

/-- The switch that names a configuration file. -/
def configSwitch : Switch TaskSwitch :=
  ⟨"--config", 'c', .valued .config⟩

/-- The switches of the command that evaluates an expression. -/
def evalSwitches : List (Switch TaskSwitch) :=
  [⟨Assignment.optionName, 'V', .valued .assignment⟩, ⟨"--prompt", none, .plain (.prompts true)⟩,
   ⟨"--no-prompt", none, .plain (.prompts false)⟩, configSwitch, helpSwitch]

/-- The assignments among the switches. -/
def assignments (given : List TaskSwitch) : List String :=
  given.filterMap fun given => if let .assignment text := given then some text else none

/-- Whether the last switch about prompts allows them; without one they are allowed. -/
def lastPrompts (given : List TaskSwitch) : Bool :=
  given.foldl (fun prompts given => if let .prompts on := given then on else prompts) true

/-- Whether help is asked for. -/
def asksHelp (given : List TaskSwitch) : Bool :=
  given.any fun given => given matches .help

/-- The last configuration file among the switches. -/
def lastConfig (given : List TaskSwitch) : Option String :=
  given.foldl (fun config given => if let .config path := given then some path else config) none

/-- The task that the switches of a command ask for in its place.  Help wins over everything, and
the path of a configuration file is looked at before the operands are. -/
def TaskSwitch.taskInstead? (command : String) (given : List TaskSwitch) : Option Task :=
  if asksHelp given then some (.page (.helpOn command))
  else ((lastConfig given).bind pathFault?).map .refuse

/-! ### Commands -/

/-- The task that the arguments of a command describe; `task?` makes it of the switches and the
operands unless the switches ask for another one. -/
def Task.ofReading (command : String) (switches : List (Switch TaskSwitch))
    (arguments : List String) (task? : List TaskSwitch → List String → Option Task) :
    Option Task := do
  let (given, operands) ← readArguments switches true arguments
  (TaskSwitch.taskInstead? command given).or (task? given operands)

/-- The task that the name of a command and the arguments behind it describe. -/
def Task.ofArguments (command : String) (arguments : List String) : Option Task :=
  match command with
  | "eval" =>
    Task.ofReading command evalSwitches arguments fun
      | given, [expression] =>
        some (.eval expression (assignments given) (lastPrompts given) (lastConfig given))
      | _, _ => none
  | "prompt" =>
    Task.ofReading command [configSwitch, helpSwitch] arguments fun
      | given, [] => some (.prompt (lastConfig given))
      | _, _ => none
  | "tokens" =>
    Task.ofReading command [helpSwitch] arguments fun
      | _, [expression] => some (.tokens expression)
      | _, _ => none
  | _ => none

namespace Invocation

/-- The task that operands ask for in place of a command, if they are switches that stand behind the
argument `--`. -/
def lateTask? (operands : List String) : Option Task :=
  (readArguments programSwitches false operands).bind fun (given, _) => taskInstead? given

/-- The invocation that arguments make.  A task in place of a command wins over everything behind
it. -/
def ofArguments (arguments : List String) : Option Invocation :=
  match readArguments programSwitches false arguments with
  | none => none
  | some (given, operands) =>
    match (taskInstead? given).or (lateTask? operands), operands with
    | some task, _ => some { task }
    -- without a command there is only the overview, and that only if nothing else is given either
    | none, [] => if arguments.isEmpty then some { task := .page .overview } else none
    | none, command :: rest =>
      (Task.ofArguments command rest).map fun task => { task, levelName := lastLevel given }

end Invocation

end Calculator.Command
