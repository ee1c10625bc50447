import Calculator.Command.Run
import Calculator.Proofs.Calculation.Queries
import Calculator.Proofs.Command.Invocation
import Calculator.Proofs.Resolver.Valuation

/-!
# The command that evaluates an expression

With usable settings and good assignments, the command says what the calculation of its expression
comes to with one fixed valuation (`run_evaluates`): a name has the value last assigned to it, else
that of the settings, else the number typed for it, if the user may be asked; and the user is asked
for the names that are needed and have no value otherwise, each once and in the order in which they
occur first.
-/

namespace Calculator.Command

/-! ### Values of variables -/

/-- The value that a name is given beforehand: the last one assigned to it, else that of the
settings. -/
def given? (settings : Settings) (assigned : List (String × Float)) (name : String) :
    Option Float :=
  (assigned.reverse.lookup name).or (settings.bindings.get? name)

/-- The values of variables in a run that asks for the given names in their order. -/
def valuation (settings : Settings) (assigned : List (String × Float))
    (asked input : List String) : Valuation := fun name =>
  match given? settings assigned name with
  | some x => .ok (.float x)
  | none => Console.typedFor asked input name

section Sources

variable (settings : Settings) (assigned : List (String × Float)) (input : List String)

theorem get?_known (name : String) :
    (known settings (.ofList assigned)).get? name =
      (given? settings assigned name).map Value.float := by
  have hmap : ∀ b : Bindings Float, (b.map Value.float).get? name = (b.get? name).map Value.float :=
    fun b => Bindings.get?_map Value.float b name
  unfold known given?
  rw [hmap, Bindings.get?_union, Bindings.get?_ofList]

theorem valuation_eq (asked : List String) :
    Console.valuation { known := known settings (.ofList assigned), answers := input } asked =
      valuation settings assigned asked input := by
  funext name
  unfold Console.valuation valuation
  dsimp only
  rw [get?_known]
  cases given? settings assigned name <;> rfl

/-- The names to ask for among those that are queried. -/
def namesToAsk (names : List String) : List String :=
  (names.filter fun name => (given? settings assigned name).isNone).eraseDups

theorem newNames_eq (names : List String) :
    Console.newNames { known := known settings (.ofList assigned), answers := input } names =
      namesToAsk settings assigned names := by
  unfold Console.newNames namesToAsk
  simp only [get?_known, Option.isNone_map]

variable {settings assigned input} {names : List String} {prompts : Bool}

/-- Where the user may be asked, the queries are answered by what is given and typed. -/
theorem answers_of_prompting (h : (prompts && settings.prompts) = true)
    (hlast : Source.resolver.AnswersButLast
      (sourceOf settings (.ofList assigned) prompts input) names) :
    let source := sourceOf settings (.ofList assigned) prompts input
    let asked := namesToAsk settings assigned names
    Source.resolver.answers source names =
        (valuation settings assigned asked input).resolver.answers () names ∧
      (Source.resolver.after source names).asked.toList = asked.map Console.prompt := by
  unfold sourceOf at hlast ⊢
  rw [if_pos h] at hlast ⊢
  obtain ⟨earlier, last, rfl, hlength, hok⟩ := hlast
  rw [(Source.answers_console _ earlier).1] at hok
  obtain ⟨hanswers, hafter⟩ := Source.answers_console
    { known := known settings (.ofList assigned), answers := input } (earlier ++ last)
  obtain ⟨hvaluation, hasked⟩ := Console.answers_eq_valuation ⟨earlier, last, rfl, hlength, hok⟩
  rw [newNames_eq, valuation_eq] at hvaluation
  rw [newNames_eq] at hasked
  dsimp only
  rw [hanswers, hafter, hvaluation]
  exact ⟨rfl, hasked⟩

/-- Where the user may not be asked, they are answered by what is given. -/
theorem answers_of_not_prompting (h : (prompts && settings.prompts) = false) (names : List String) :
    let source := sourceOf settings (.ofList assigned) prompts input
    Source.resolver.answers source names =
        (valuation settings assigned [] input).resolver.answers () names ∧
      (Source.resolver.after source names).asked.toList = [] := by
  unfold sourceOf
  rw [if_neg (by simp [h])]
  obtain ⟨hanswers, hafter⟩ :=
    Source.answers_table (known settings (.ofList assigned)) names
  dsimp only
  rw [hanswers, hafter, ← valuation_eq, Valuation.answers_resolver, Valuation.answers_resolver]
  exact ⟨rfl, rfl⟩

end Sources

/-! ### Reports -/

/-- Whether a report says what an evaluation has come to. -/
def Report.Tells (r : Report) : Except Failure Float → Prop
  | .ok x => r.exit = 0 ∧ r.closing = "Result: " ++ numberText x ++ "\n" ∧ r.fault = none
  | .error (.error e) =>
    r.exit = 1 ∧ r.closing = Text.shown ("Error: " ++ e.text) ++ "\n" ∧ r.fault = none
  | .error (.fault f) => r.exit = 1 ∧ r.closing = "" ∧ r.fault = some f

theorem Report.Tells.exit_eq_zero_iff {r : Report} {result : Except Failure Float}
    (h : r.Tells result) : r.exit = 0 ↔ ∃ x, result = .ok x := by
  cases result with
  | ok x => exact iff_of_true h.1 ⟨x, rfl⟩
  | error f =>
    have hexit : r.exit = 1 := by
      cases f with
      | error e => exact h.1
      | fault f => exact h.1
    rw [hexit]
    constructor
    · intro hzero
      cases hzero
    · rintro ⟨x, hx⟩
      cases hx

theorem tells_evaluationReport (limits : Limits) (source : Source) (expression : String) :
    (evaluationReport limits source expression).Tells
      (calculateWithin Source.resolver limits.parentheses source expression).result := by
  unfold evaluationReport
  dsimp only
  cases (calculateWithin Source.resolver limits.parentheses source expression).result with
  | ok x => exact ⟨rfl, rfl, rfl⟩
  | error f =>
    cases f with
    | error e => exact ⟨rfl, rfl, rfl⟩
    | fault f => exact ⟨rfl, rfl, rfl⟩

theorem prompts_evaluationReport (limits : Limits) (source : Source) (expression : String) :
    (evaluationReport limits source expression).prompts =
      (calculateWithin Source.resolver limits.parentheses source
        expression).log.state.asked.toList := by
  unfold evaluationReport
  dsimp only
  cases (calculateWithin Source.resolver limits.parentheses source expression).result with
  | ok x => exact List.append_nil _
  | error f =>
    cases f with
    | error e => exact List.append_nil _
    | fault f => exact List.append_nil _

/-- Sources that answer the queries of an evaluation in the same way lead to the same report. -/
theorem tells_evaluationReport_of_answers {limits : Limits} {source : Source}
    {expression : String} {v : Valuation} {names : List String}
    (hnames : (calculateWithin Source.resolver limits.parentheses source
      expression).log.queries.toList = names)
    (hanswers : Source.resolver.answers source names = v.resolver.answers () names) :
    let outcome := calculateWithin v.resolver limits.parentheses () expression
    (evaluationReport limits source expression).Tells outcome.result ∧
      outcome.log.queries.toList = names := by
  subst hnames
  intro outcome
  obtain ⟨hresult, -, hqueries⟩ := calculateWithin_congr _ () hanswers.symm
  have htells := tells_evaluationReport limits source expression
  constructor
  · rw [show outcome.result = _ from hresult]
    exact htells
  · exact congrArg Array.toList hqueries

/-! ### Runs -/

section Run

variable {site : Site} {arguments : List String} {expression : String} {assignments : List String}
  {prompts : Bool} {config levelName : Option String} {settings : Settings}
  {assigned : List (String × Float)}

/-- With usable settings, a task is done, and the level and earlier events are added to its
report. -/
theorem withSettings_of_ok (levelName : Option String) (task : Settings → Report)
    (hsettings : (site.config? config).bind (settingsOf site.limits) = .ok settings) :
    ∃ level events, site.withSettings levelName config task =
      { task settings with level, events } := by
  unfold Site.withSettings
  rw [hsettings]
  exact ⟨_, _, rfl⟩

/-- A run adds the level and earlier events to the report of its evaluation, and nothing else. -/
theorem run_eq_of_eval
    (hargs : Invocation.ofArguments arguments =
      some ⟨.eval expression assignments prompts config, levelName⟩)
    (hsettings : (site.config? config).bind (settingsOf site.limits) = .ok settings) :
    ∃ level events, run site arguments =
      { evalReport site.limits settings assignments prompts expression site.input with
        level, events } := by
  unfold run
  rw [hargs]
  exact withSettings_of_ok levelName _ hsettings

/-- Where the user may not be asked, it makes no difference what is typed. -/
theorem run_of_not_prompting
    (hargs : Invocation.ofArguments arguments =
      some ⟨.eval expression assignments prompts config, levelName⟩)
    (hsettings : (site.config? config).bind (settingsOf site.limits) = .ok settings)
    (hprompting : (prompts && settings.prompts) = false) (input : List String) :
    run { site with input } arguments = run site arguments := by
  have hsource : ∀ values input, sourceOf settings values prompts input =
      .table (known settings values) := by
    intro values input
    unfold sourceOf
    rw [if_neg (by simp [hprompting])]
  have hreport : evalReport site.limits settings assignments prompts expression input =
      evalReport site.limits settings assignments prompts expression site.input := by
    unfold evalReport
    simp only [hsource]
  unfold run
  rw [hargs]
  show Site.withSettings site levelName config _ = site.withSettings levelName config _
  unfold Site.withSettings
  rw [hsettings]
  dsimp only
  rw [hreport]

theorem evalReport_of_ok (limits : Limits) {input : List String}
    (hassigned : assignments.mapM Assignment.ofText = .ok assigned) :
    evalReport limits settings assignments prompts expression input =
      evaluationReport limits (sourceOf settings (.ofList assigned) prompts input) expression := by
  unfold evalReport Assignment.bindings
  rw [hassigned]
  rfl

theorem nodup_eraseDups (names : List String) : names.eraseDups.Nodup := by
  induction h : names.length using Nat.strong_induction_on generalizing names with
  | _ n ih =>
    cases names with
    | nil => exact List.nodup_nil
    | cons name names =>
      have hlength := List.length_filter_le (fun other => !other == name) names
      rw [List.length_cons] at h
      rw [List.eraseDups_cons, List.nodup_cons, List.mem_eraseDups]
      exact ⟨by simp, ih _ (by omega) _ rfl⟩

/-- **An expression is evaluated with what is given and typed**: with usable settings and good
assignments there are names, each without a value given beforehand, such that the user is asked for
each of them once, and the command says what the calculation comes to if these names have the values
that are typed for them.  If the user may be asked, they are the names that are queried and have no
other value, in the order in which they occur first; otherwise there are none, and the input makes
no difference.  The run ends well exactly if the calculation has a value. -/
theorem run_evaluates (site : Site) (arguments : List String) (expression : String)
    (assignments : List String) (prompts : Bool) (config levelName : Option String)
    (settings : Settings) (assigned : List (String × Float))
    (hargs : Invocation.ofArguments arguments =
      some ⟨.eval expression assignments prompts config, levelName⟩)
    (hsettings : (site.config? config).bind (settingsOf site.limits) = .ok settings)
    (hassigned : assignments.mapM Assignment.ofText = .ok assigned) :
    let report := run site arguments
    let prompting := prompts && settings.prompts
    ∃ asked : List String,
      let outcome := calculateWithin (valuation settings assigned asked site.input).resolver
        site.limits.parentheses () expression
      report.Tells outcome.result ∧ (report.exit = 0 ↔ ∃ x, outcome.result = .ok x) ∧
        report.prompts = asked.map Console.prompt ∧ asked.Nodup ∧
        (∀ name ∈ asked, given? settings assigned name = none) ∧
        asked = (if prompting then
          namesToAsk settings assigned outcome.log.queries.toList else []) ∧
        (prompting = false → ∀ input, run { site with input } arguments = report) := by
  intro report prompting
  let source := sourceOf settings (.ofList assigned) prompts site.input
  let limit := site.limits.parentheses
  let names := (calculateWithin Source.resolver limit source expression).log.queries.toList
  have hlast : Source.resolver.AnswersButLast source names :=
    answersButLast_calculateWithin Source.resolver limit source expression
  obtain ⟨level, events, hreport⟩ : ∃ level events, report =
      { evaluationReport site.limits source expression with level, events } := by
    rw [← evalReport_of_ok site.limits hassigned]
    exact run_eq_of_eval hargs hsettings
  -- the level and the events of a report have no part in what it tells
  have htells : ∀ result,
      (evaluationReport site.limits source expression).Tells result → report.Tells result := by
    intro result h
    rw [hreport]
    exact h
  have hprompts : report.prompts = (Source.resolver.after source names).asked.toList := by
    have hstate : (calculateWithin Source.resolver limit source expression).log.state =
        Source.resolver.after source names :=
      state_calculateWithin Source.resolver limit source expression
    rw [hreport, ← hstate]
    exact prompts_evaluationReport site.limits source expression
  cases hp : prompting with
  | true =>
    let asked := namesToAsk settings assigned names
    obtain ⟨hanswers, hasked⟩ := answers_of_prompting hp hlast
    obtain ⟨hreported, hqueries⟩ := tells_evaluationReport_of_answers rfl hanswers
    have hgiven : ∀ name ∈ asked, given? settings assigned name = none := by
      intro name hname
      have hmem := (List.mem_filter.mp (List.mem_eraseDups.mp hname)).2
      exact Option.isNone_iff_eq_none.mp hmem
    refine ⟨asked, htells _ hreported, (htells _ hreported).exit_eq_zero_iff, hprompts.trans hasked,
      nodup_eraseDups _, hgiven, ?_, fun h => by cases h⟩
    rw [hqueries]
    rfl
  | false =>
    obtain ⟨hanswers, hasked⟩ := answers_of_not_prompting hp names
    obtain ⟨hreported, -⟩ := tells_evaluationReport_of_answers rfl hanswers
    refine ⟨[], htells _ hreported, (htells _ hreported).exit_eq_zero_iff, hprompts.trans hasked,
      List.nodup_nil, ?_, rfl, fun _ input => run_of_not_prompting hargs hsettings hp input⟩
    rintro name ⟨⟩

/-- A folder with a configuration that gives `y` a value, and one line of input. -/
def configuredSite : Site where
  folder := "/home"
  look name :=
    if name = Settings.fileName then .file (.ok "[variables]\ny = 2.5\n".toUTF8) else .nothing
  input := [" 4 "]

/-- `x*y+z-z` is evaluated with the last value assigned to `x` and the one of the configuration for
`y`, and it asks for `z` once. -/
theorem run_evaluates_configured :
    let arguments := evalArguments "x*y+z-z" ["x=2", "x=3"] true none
    let assigned := [("x", 2.0), ("x", 3.0)]
    ∃ settings asked,
      Invocation.ofArguments arguments =
        some ⟨.eval "x*y+z-z" ["x=2", "x=3"] true none, none⟩ ∧
      (configuredSite.config? none).bind (settingsOf .usual) = .ok settings ∧
      ["x=2", "x=3"].mapM Assignment.ofText = .ok assigned ∧
      given? settings assigned "x" = some 3.0 ∧ given? settings assigned "y" = some 2.5 ∧
      (run configuredSite arguments).Tells
        (calculateWithin (valuation settings assigned asked [" 4 "]).resolver
          configuredSite.limits.parentheses () "x*y+z-z").result ∧
      (run configuredSite arguments).closing = "Result: 7.5\n" ∧
      (run configuredSite arguments).prompts = asked.map Console.prompt ∧
      (run configuredSite arguments).prompts = [Console.prompt "z"] := by
  intro arguments assigned
  have hargs := ofArguments_evalArguments "x*y+z-z" ["x=2", "x=3"] true none rfl
  have hread : ((configuredSite.config? none).bind (settingsOf .usual)).toOption.map
      (fun settings => settings.bindings.get? "y") = some (some 2.5) := by
    decide +kernel
  obtain ⟨settings, hsome, hy⟩ := Option.map_eq_some_iff.mp hread
  have hsettings : (configuredSite.config? none).bind (settingsOf .usual) = .ok settings := by
    cases h : (configuredSite.config? none).bind (settingsOf .usual) with
    | error report =>
      rw [h] at hsome
      cases hsome
    | ok settings' =>
      rw [h] at hsome
      cases hsome
      rfl
  have hassigned : ["x=2", "x=3"].mapM Assignment.ofText = .ok assigned := by decide +kernel
  obtain ⟨asked, htells, -, hprompts, -⟩ := run_evaluates configuredSite arguments "x*y+z-z"
    ["x=2", "x=3"] true none none settings assigned hargs hsettings hassigned
  have hgiven : given? settings assigned "y" = some 2.5 := by
    unfold given?
    rw [hy]
    rfl
  exact ⟨settings, asked, hargs, hsettings, hassigned, rfl, hgiven, htells, by decide +kernel,
    hprompts, by decide +kernel⟩

end Run

end Calculator.Command
