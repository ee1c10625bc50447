import Calculator.Command.Invocation

/-!
# Arguments for an invocation

Every evaluation can be asked for: there are arguments that make the invocation for any expression,
assignments, choice about prompts and configuration file, unless the path of the file is refused
(`ofArguments_evalArguments`).  The expression stands behind `--`, so it may look like a switch, and
an assignment is the argument behind its switch, so it may as well.
-/

namespace Calculator.Command

variable {α : Type} {switches : List (Switch α)} {mixed : Bool}

/-- Behind the argument `--`, or behind the name of a command, there are only operands. -/
theorem foldlM_next?_of_closed {r : Reading α} (hwaiting : r.waiting = none)
    (hclosed : r.closed = true) (arguments : List String) :
    arguments.foldlM (Reading.next? switches mixed) r =
      some { r with operands := r.operands ++ arguments } := by
  induction arguments generalizing r with
  | nil => rw [List.append_nil]; rfl
  | cons argument arguments ih =>
    have hnext : r.next? switches mixed argument =
        some { r with operands := r.operands ++ [argument] } := by
      unfold Reading.next?
      rw [hwaiting, hclosed]
      rfl
    rw [List.foldlM_cons, hnext]
    show arguments.foldlM (Reading.next? switches mixed) _ = _
    rw [ih (r := { r with operands := r.operands ++ [argument] }) hwaiting hclosed,
      List.append_assoc, List.singleton_append]

/-- The arguments that give the switch for an assignment. -/
def assignmentArguments (assignments : List String) : List String :=
  assignments.flatMap fun text => [Assignment.optionName, text]

/-- Assignments are added to what has been given before. -/
theorem foldlM_next?_assignmentArguments (given : List TaskSwitch) (assignments : List String) :
    (assignmentArguments assignments).foldlM (Reading.next? evalSwitches true) { given } =
      some { given := given ++ assignments.map TaskSwitch.assignment } := by
  induction assignments generalizing given with
  | nil => rw [List.map_nil, List.append_nil]; rfl
  | cons text assignments ih =>
    have hstep : (assignmentArguments (text :: assignments)).foldlM
        (Reading.next? evalSwitches true) { given } =
          (assignmentArguments assignments).foldlM (Reading.next? evalSwitches true)
            { given := given ++ [.assignment text] } := rfl
    rw [hstep, ih, List.append_assoc, List.map_cons, List.singleton_append]

/-- The arguments that give the switches for prompts and for a configuration file. -/
def settingArguments (prompts : Bool) : Option String → List String
  | none => [if prompts then "--prompt" else "--no-prompt"]
  | some path => [if prompts then "--prompt" else "--no-prompt", "--config", path]

theorem foldlM_next?_settingArguments (given : List TaskSwitch) (prompts : Bool)
    (config : Option String) :
    (settingArguments prompts config).foldlM (Reading.next? evalSwitches true) { given } =
      some { given := given ++ (.prompts prompts :: config.toList.map TaskSwitch.config) } := by
  cases config with
  | none => cases prompts <;> rfl
  | some path =>
    have hgiven : given ++ [.prompts prompts, .config path] =
        given ++ [.prompts prompts] ++ [.config path] := by
      rw [List.append_assoc, List.singleton_append]
    rw [Option.toList_some, List.map_singleton, hgiven]
    cases prompts <;> rfl

/-- Arguments that ask for the evaluation of an expression. -/
def evalArguments (expression : String) (assignments : List String) (prompts : Bool)
    (config : Option String) : List String :=
  "eval" :: (assignmentArguments assignments ++ settingArguments prompts config ++
    ["--", expression])

section Given

variable (texts : List String) (prompts : Bool) (config : Option String)

/-- The switches that give assignments, a choice about prompts and a configuration file. -/
def switchesOf : List TaskSwitch :=
  texts.map TaskSwitch.assignment ++ (.prompts prompts :: config.toList.map TaskSwitch.config)

theorem assignments_switchesOf : assignments (switchesOf texts prompts config) = texts := by
  unfold assignments switchesOf
  rw [List.filterMap_append, List.filterMap_map]
  show texts.filterMap some ++ _ = texts
  rw [List.filterMap_some]
  cases config <;> simp

theorem lastPrompts_switchesOf : lastPrompts (switchesOf texts prompts config) = prompts := by
  unfold lastPrompts switchesOf
  rw [List.foldl_append, List.foldl_map]
  cases config <;> simp

theorem lastConfig_switchesOf : lastConfig (switchesOf texts prompts config) = config := by
  have hnone : texts.foldl (fun (config : Option String) _ => config) none = none := by
    induction texts with
    | nil => rfl
    | cons text texts ih => exact ih
  unfold lastConfig switchesOf
  rw [List.foldl_append, List.foldl_map]
  cases config <;> simp [hnone]

theorem asksHelp_switchesOf : asksHelp (switchesOf texts prompts config) = false := by
  unfold asksHelp switchesOf
  cases config <;> simp

/-- These switches do not ask for anything else. -/
theorem taskInstead?_switchesOf {config : Option String} (h : config.bind pathFault? = none)
    (command : String) :
    TaskSwitch.taskInstead? command (switchesOf texts prompts config) = none := by
  unfold TaskSwitch.taskInstead?
  rw [asksHelp_switchesOf, lastConfig_switchesOf, h]
  rfl

end Given

theorem readArguments_of_eval (expression : String) (assignments : List String) (prompts : Bool)
    (config : Option String) :
    readArguments evalSwitches true
        (assignmentArguments assignments ++ settingArguments prompts config ++
          ["--", expression]) =
      some (switchesOf assignments prompts config, [expression]) := by
  unfold readArguments
  rw [List.foldlM_append, List.foldlM_append, foldlM_next?_assignmentArguments]
  show ((settingArguments prompts config).foldlM (Reading.next? evalSwitches true) _ >>= _) >>= _ =
    _
  rw [foldlM_next?_settingArguments]
  rfl

/-- **Every evaluation can be asked for**, unless the path of its configuration file is refused. -/
theorem ofArguments_evalArguments (expression : String) (assignments : List String)
    (prompts : Bool) (config : Option String) (hconfig : config.bind pathFault? = none) :
    Invocation.ofArguments (evalArguments expression assignments prompts config) =
      some { task := .eval expression assignments prompts config } := by
  have hread : readArguments programSwitches false
      (evalArguments expression assignments prompts config) =
        some ([], evalArguments expression assignments prompts config) := by
    have hfirst : Reading.next? programSwitches false {} "eval" =
        some { operands := ["eval"], closed := true } := rfl
    unfold readArguments evalArguments
    rw [List.foldlM_cons, hfirst]
    show List.foldlM (Reading.next? programSwitches false) _ _ >>= _ = _
    rw [foldlM_next?_of_closed rfl rfl]
    rfl
  have htask : Task.ofArguments "eval" (assignmentArguments assignments ++
      settingArguments prompts config ++ ["--", expression]) =
        some (.eval expression assignments prompts config) := by
    unfold Task.ofArguments Task.ofReading
    simp only [readArguments_of_eval, Option.bind_eq_bind, Option.bind_some,
      taskInstead?_switchesOf assignments prompts hconfig, Option.none_or, assignments_switchesOf,
      lastPrompts_switchesOf, lastConfig_switchesOf]
  -- the operands are the arguments themselves, and they are looked through again for switches
  have hlate : Invocation.lateTask? (evalArguments expression assignments prompts config) =
      none := by
    unfold Invocation.lateTask?
    rw [hread]
    rfl
  unfold Invocation.ofArguments
  rw [hread]
  dsimp only
  rw [hlate]
  unfold evalArguments
  dsimp only [taskInstead?, List.findSome?_nil, Option.none_or]
  rw [htask]
  rfl

end Calculator.Command
