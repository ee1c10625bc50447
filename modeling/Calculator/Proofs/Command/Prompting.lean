import Calculator.Proofs.Command.Evaluation

/-!
# The command that asks for its expression

The command `prompt` takes its expression from the first line of input and leaves the other lines to
the questions for variables.  What it does with them is what the command `eval` does with the same
expression (`run_prompts`): a report of the one is that of the other behind the first prompt.
-/

namespace Calculator.Command

/-! ### The questions of an evaluation -/

section Questions

variable (limits : Limits) (settings : Settings) (assigned : List (String × Float))
  (prompts : Bool) (expression : String) (input : List String)

/-- The names that the user is asked for when an expression is evaluated. -/
def askedFor : List String :=
  if prompts && settings.prompts then
    namesToAsk settings assigned
      (calculateWithin Source.resolver limits.parentheses
        (sourceOf settings (.ofList assigned) prompts input) expression).log.queries.toList
  else []

theorem prompts_evaluationReport_sourceOf :
    (evaluationReport limits (sourceOf settings (.ofList assigned) prompts input)
        expression).prompts =
      (askedFor limits settings assigned prompts expression input).map Console.prompt := by
  let source := sourceOf settings (.ofList assigned) prompts input
  let outcome := calculateWithin Source.resolver limits.parentheses source expression
  let names := outcome.log.queries.toList
  have hstate : outcome.log.state = Source.resolver.after source names :=
    state_calculateWithin Source.resolver limits.parentheses source expression
  have hprompts : (evaluationReport limits source expression).prompts =
      (Source.resolver.after source names).asked.toList := by
    rw [prompts_evaluationReport, hstate]
  unfold askedFor
  cases hp : prompts && settings.prompts with
  | true =>
    have hlast : Source.resolver.AnswersButLast source names :=
      answersButLast_calculateWithin Source.resolver limits.parentheses source expression
    exact hprompts.trans (answers_of_prompting hp hlast).2
  | false => exact hprompts.trans (answers_of_not_prompting hp names).2

end Questions

/-! ### Runs -/

section Run

variable {site : Site} {config levelName : Option String} {settings : Settings}

/-- What is typed has no part in reading the settings. -/
theorem withSettings_input (site : Site) (input : List String) (levelName config : Option String)
    (task : Settings → Report) :
    Site.withSettings { site with input } levelName config task =
      site.withSettings levelName config task := by
  cases config <;> rfl

/-- With usable settings, the prompts of a task come in front of whatever it goes on with. -/
theorem withSettings_after {task task' : Settings → Report} {prompts : List String}
    (hsettings : (site.config? config).bind (settingsOf site.limits) = .ok settings)
    (htask : task settings = (task' settings).after prompts) :
    site.withSettings levelName config task =
      (site.withSettings levelName config task').after prompts := by
  unfold Site.withSettings
  rw [hsettings]
  dsimp only
  rw [htask]
  rfl

/-- **A line that is asked for is evaluated as if it were given**: with usable settings, the command
that asks for its expression, and is given a line and then other input, leaves the report of the
command that evaluates this line with the other input, without assignments and with permission to
ask, behind the prompt for the expression.  So it ends in the same way, asks for the same variables
in the same order, and prints the same behind that prompt. -/
theorem run_prompts (site : Site) (line : String)
    (answers promptArguments evalArguments : List String) (config levelName : Option String)
    (settings : Settings)
    (hprompt : Invocation.ofArguments promptArguments = some ⟨.prompt config, levelName⟩)
    (heval : Invocation.ofArguments evalArguments = some ⟨.eval line [] true config, levelName⟩)
    (hsettings : (site.config? config).bind (settingsOf site.limits) = .ok settings) :
    let prompted := run { site with input := line :: answers } promptArguments
    let evaluated := run { site with input := answers } evalArguments
    let asked := askedFor site.limits settings [] true line answers
    prompted = evaluated.after [expressionPrompt] ∧
      prompted.exit = evaluated.exit ∧ prompted.fault = evaluated.fault ∧
      prompted.level = evaluated.level ∧ prompted.events = evaluated.events ∧
      evaluated.prompts = asked.map Console.prompt ∧
      prompted.prompts = expressionPrompt :: asked.map Console.prompt ∧
      prompted.output = expressionPrompt ++ evaluated.output := by
  intro prompted evaluated asked
  have hprompted : prompted = site.withSettings levelName config
      fun settings => promptReport site.limits settings (line :: answers) := by
    show run _ _ = _
    unfold run
    rw [hprompt]
    exact withSettings_input site (line :: answers) levelName config _
  have hevaluated : evaluated = site.withSettings levelName config
      fun settings => evalReport site.limits settings [] true line answers := by
    show run _ _ = _
    unfold run
    rw [heval]
    exact withSettings_input site answers levelName config _
  have hsame : prompted = evaluated.after [expressionPrompt] := by
    rw [hprompted, hevaluated]
    exact withSettings_after hsettings rfl
  have hasked : evaluated.prompts = asked.map Console.prompt := by
    obtain ⟨level, events, hrun⟩ : ∃ level events, evaluated =
        { evalReport site.limits settings [] true line answers with level, events } := by
      rw [hevaluated]
      exact withSettings_of_ok levelName _ hsettings
    have hreport : evalReport site.limits settings [] true line answers =
        evaluationReport site.limits (sourceOf settings (.ofList []) true answers) line :=
      evalReport_of_ok site.limits rfl
    rw [hrun, hreport]
    exact prompts_evaluationReport_sourceOf site.limits settings [] true line answers
  have hprompts : prompted.prompts = expressionPrompt :: asked.map Console.prompt := by
    rw [hsame, ← hasked]
    rfl
  have houtput : prompted.output = expressionPrompt ++ evaluated.output := by
    rw [hsame]
    simp [Report.output, Report.after, String.append_assoc]
  exact ⟨hsame, by rw [hsame]; rfl, by rw [hsame]; rfl, by rw [hsame]; rfl, by rw [hsame]; rfl,
    hasked, hprompts, houtput⟩

/-- With `y` from a configuration, the line `x*y` needs one more line. -/
theorem run_prompts_configured :
    ∃ settings, Invocation.ofArguments ["prompt"] = some ⟨.prompt none, none⟩ ∧
      (configuredSite.config? none).bind (settingsOf .usual) = .ok settings ∧
      run { configuredSite with input := ["x*y", "4"] } ["prompt"] =
        (run { configuredSite with input := ["4"] } (evalArguments "x*y" [] true none)).after
          [expressionPrompt] ∧
      (run { configuredSite with input := ["x*y", "4"] } ["prompt"]).output =
        expressionPrompt ++ (Console.prompt "x" ++ "Result: 10.0\n") := by
  have hargs : Invocation.ofArguments ["prompt"] = some ⟨.prompt none, none⟩ := by decide +kernel
  have hread : ((configuredSite.config? none).bind (settingsOf .usual)).isOk = true := by
    decide +kernel
  obtain ⟨settings, hsettings⟩ :
      ∃ settings, (configuredSite.config? none).bind (settingsOf .usual) = .ok settings := by
    cases h : (configuredSite.config? none).bind (settingsOf .usual) with
    | ok settings => exact ⟨settings, rfl⟩
    | error report =>
      rw [h] at hread
      cases hread
  obtain ⟨hsame, -, -, -, -, -, -, houtput⟩ := run_prompts configuredSite "x*y" ["4"] ["prompt"]
    (evalArguments "x*y" [] true none) none none settings hargs
    (ofArguments_evalArguments "x*y" [] true none rfl) hsettings
  refine ⟨settings, hargs, hsettings, hsame, houtput.trans (congrArg (expressionPrompt ++ ·) ?_)⟩
  decide +kernel

end Run

end Calculator.Command
