import Calculator.Command.Run

/-!
# The program

The program reads what a run needs from its surroundings and prints the report of the run.  While
the run waits for more input than there was, one more line is read and the run is made again: what
has been printed stays as it is.
-/

namespace Calculator.Command

/-- What is found at a path. -/
def sight (path : String) : IO Sighting :=
  try
    return .file (.ok (← IO.FS.readBinFile path))
  catch
    | .noFileOrDirectory .. | .inappropriateType .. => return .nothing
    | error => return .refused (.raised .refused error.toString)

/-- Whether the system does not let a file be read. -/
def isDenied (path : String) : IO Bool :=
  try
    discard <| IO.FS.readBinFile path
    return false
  catch
    | .permissionDenied .. => return true
    | _ => return false

/-- Where this program runs.  A run looks at no more than one path. -/
def Site.here (arguments : List String) : IO Site := do
  let given? := (Invocation.ofArguments arguments).bind (·.task.config)
  let sighting ← sight ((given?.map plainPath).getD Settings.fileName)
  let denied ← given?.elim (pure false) isDenied
  return {
    folder := (← IO.currentDir).toString
    look := fun _ => sighting
    denies := fun _ => denied
    pages := fun _ => .success (usageLine ++ "\n")
    surroundings :=
      { environmentName := ← IO.getEnv "RECKON_ENV"
        levelName := ← IO.getEnv "RECKON_LOG_LEVEL" }
    machine := "Lean 4" }

/-- Prints what was reported. -/
def printEvents (events : List Event) : IO Unit :=
  events.forM fun e => IO.eprintln s!"[{e.level.name}] {e.origin}: {e.message}"

/-- Makes a run, of which so many prompts have been printed, and goes on while it waits for
input. -/
partial def interact (arguments : List String) (site : Site) (printed : Nat) : IO UInt32 := do
  let report := run site arguments
  let input ← IO.getStdin
  let output ← IO.getStdout
  output.putStr (String.join (report.prompts.drop printed))
  output.flush
  let line ← if site.input.length < report.prompts.length then input.getLine else pure ""
  match Text.linesOf line with
  | [] =>
    output.putStr report.closing
    output.flush
    printEvents report.events
    unless report.complaint.isEmpty do IO.eprintln report.complaint
    if let some f := report.fault then IO.eprintln f.message
    return report.exit.toUInt32
  | lines => interact arguments { site with input := site.input ++ lines } report.prompts.length

end Calculator.Command

/-- Runs the program. -/
def main (arguments : List String) : IO UInt32 := do
  Calculator.Command.interact arguments (← Calculator.Command.Site.here arguments) 0
