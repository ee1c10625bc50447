import Calculator.Proofs.Calculation.Faults
import Calculator.Proofs.Command.Evaluation
import Calculator.Proofs.Settings.Checks

/-!
# How an evaluation ends

A run that evaluates an expression ends in order, with a result, with an error that the user is
told about or with a usage error, unless a fault ends it; and the faults are those of `Crashes`: of
a path that is refused, of a file that the system does not give out, of a configuration that spoils
its reading, and of a function that is applied to an infinite angle (`run_isOrderly_iff`).
-/

namespace Calculator.Command

open Evaluation

/-! ### Orderly reports -/

/-- Whether a run has ended in one of the three ways in which it should. -/
inductive Report.IsOrderly (r : Report) : Prop
  | result {x : Float} (exit : r.exit = 0)
      (closing : r.closing = "Result: " ++ numberText x ++ "\n")
  | error {message : String} (exit : r.exit = 1)
      (closing : r.closing = Text.shown ("Error: " ++ message) ++ "\n")
  | usage (exit : r.exit = 2) (output : r.output = "")

/-- How a run has ended does not depend on the level and on what was reported. -/
theorem Report.isOrderly_with (r : Report) (level : Level) (events : List Event) :
    { r with level, events }.IsOrderly ↔ r.IsOrderly := by
  constructor
  · rintro (⟨exit, closing⟩ | ⟨exit, closing⟩ | ⟨exit, output⟩)
    · exact .result exit closing
    · exact .error exit closing
    · exact .usage exit output
  · rintro (⟨exit, closing⟩ | ⟨exit, closing⟩ | ⟨exit, output⟩)
    · exact .result exit closing
    · exact .error exit closing
    · exact .usage exit output

/-- What is printed at the end of a run with an error is not empty. -/
theorem shown_append_ne (message : String) : Text.shown message ++ "\n" ≠ "" := by
  intro h
  have hlength := congrArg String.length h
  rw [String.length_append] at hlength
  exact absurd hlength (Nat.succ_ne_zero _)

theorem not_isOrderly_crash (fault : Fault) : ¬ (Report.crash fault).IsOrderly := by
  rintro (⟨exit, -⟩ | ⟨-, closing⟩ | ⟨exit, -⟩)
  · cases exit
  · exact shown_append_ne _ closing.symm
  · cases exit

/-- Whether a run has ended in order or by a fault, which is then one of the given ones. -/
structure Report.EndsBy (r : Report) (faults : Fault → Prop) : Prop where
  isOrderly_iff : r.IsOrderly ↔ r.fault = none
  fault_eq_iff : ∀ fault, r.fault = some fault ↔ faults fault

section EndsBy

variable {r : Report} {faults : Fault → Prop}

theorem Report.EndsBy.congr {faults' : Fault → Prop} (h : r.EndsBy faults)
    (hsame : ∀ fault, faults fault ↔ faults' fault) : r.EndsBy faults' :=
  ⟨h.isOrderly_iff, fun fault => (h.fault_eq_iff fault).trans (hsame fault)⟩

theorem Report.EndsBy.with (h : r.EndsBy faults) (level : Level) (events : List Event) :
    Report.EndsBy { r with level, events } faults :=
  ⟨(r.isOrderly_with level events).trans h.isOrderly_iff, h.fault_eq_iff⟩

theorem Report.IsOrderly.endsBy (h : r.IsOrderly) (hnone : r.fault = none)
    (hfaults : ∀ fault, ¬ faults fault) : r.EndsBy faults := by
  refine ⟨iff_of_true h hnone, fun fault => iff_of_false ?_ (hfaults fault)⟩
  rw [hnone]
  exact nofun

theorem endsBy_usage (complaint : String) (hfaults : ∀ fault, ¬ faults fault) :
    (Report.usage complaint).EndsBy faults :=
  Report.IsOrderly.endsBy (.usage rfl rfl) rfl hfaults

theorem endsBy_crash (fault : Fault) (hfaults : ∀ fault', fault = fault' ↔ faults fault') :
    (Report.crash fault).EndsBy faults :=
  ⟨iff_of_false (not_isOrderly_crash fault) nofun,
    fun fault' => Option.some_inj.trans (hfaults fault')⟩

theorem endsBy_ofFailure (message : Error → String) (f : Failure) :
    (Report.ofFailure message f).EndsBy fun fault => f = .fault fault := by
  cases f with
  | error e => exact Report.IsOrderly.endsBy (.error rfl rfl) rfl fun fault => nofun
  | fault f => exact endsBy_crash f fun fault => (Failure.fault.injEq f fault).to_iff.symm

/-- A report that says what an evaluation has come to is orderly unless that is a fault. -/
theorem Report.Tells.endsBy {result : Except Failure Float} (h : r.Tells result) :
    r.EndsBy fun fault => result = .error (.fault fault) := by
  cases result with
  | ok x =>
    obtain ⟨exit, closing, fault⟩ := h
    exact Report.IsOrderly.endsBy (.result exit closing) fault fun fault => nofun
  | error f =>
    cases f with
    | error e =>
      obtain ⟨exit, closing, fault⟩ := h
      exact Report.IsOrderly.endsBy (.error exit closing) fault fun fault => nofun
    | fault f =>
      -- the exit is that of an error, but nothing is printed at the end
      obtain ⟨exit, closing, fault⟩ := h
      refine ⟨iff_of_false ?_ (by simp [fault]), fun fault' => by simp [fault]⟩
      rintro (⟨exit', -⟩ | ⟨-, closing'⟩ | ⟨exit', -⟩)
      · rw [exit] at exit'
        cases exit'
      · rw [closing] at closing'
        exact shown_append_ne _ closing'.symm
      · rw [exit] at exit'
        cases exit'

end EndsBy

/-! ### Faults -/

/-- Whether the system does not give out the configuration file of a run: it refuses to look where
the file should be, or fails to read the file that is there.  A file that may not be read, and is
named by the arguments, is not looked for. -/
inductive Withholds (site : Site) : Option String → Fault → Prop
  | named {given : String} {fault : Fault} (hallowed : site.denies given = false)
      (h : (site.look (plainPath given)).bytes = .error fault) : Withholds site (some given) fault
  | default {fault : Fault} (h : (site.look Settings.fileName).bytes = .error fault) :
      Withholds site none fault

/-- The ways in which a fault ends a run that is to evaluate an expression. -/
inductive Crashes (site : Site) : Task → Fault → Prop
  /-- The path of the configuration file is refused. -/
  | path {fault : Fault} : Crashes site (.refuse fault) fault
  /-- The configuration file is not given out. -/
  | file {expression : String} {assignments : List String} {prompts : Bool}
      {config : Option String} {fault : Fault} (h : Withholds site config fault) :
      Crashes site (.eval expression assignments prompts config) fault
  /-- The bytes of the configuration file cannot be made settings of. -/
  | configuration {expression path : String} {bytes : ByteArray} {assignments : List String}
      {prompts : Bool} {config : Option String} {fault : Fault}
      (hfile : site.config? config = .ok (some (path, bytes)))
      (h : Settings.Spoils site.limits bytes fault) :
      Crashes site (.eval expression assignments prompts config) fault
  /-- A function is applied to an infinite angle. -/
  | angle {expression : String} {assignments : List String} {prompts : Bool}
      {config : Option String} {settings : Settings} {assigned : List (String × Float)}
      {tokens : List Token} {g : Trig} {angle : Float}
      (hsettings : (site.config? config).bind (settingsOf site.limits) = .ok settings)
      (hassigned : assignments.mapM Assignment.ofText = .ok assigned)
      (hlex : Token.ofText expression = .ok tokens)
      (happ : Applies Source.resolver site.limits.parentheses
        (sourceOf settings (.ofList assigned) prompts site.input) tokens g angle)
      (hinf : angle.isInf = true) :
      Crashes site (.eval expression assignments prompts config) .infiniteAngle

/-- Whether a source is a table or a console whose values are floats. -/
def HoldsFloats : Source → Prop
  | .table bindings => ∀ name v, bindings.get? name = some v → ∃ x, v = .float x
  | .console c => ∀ name v, c.known.get? name = some v → ∃ x, v = .float x
  | .script _ => False

/-- A console that knows floats answers with a float or an error, and knows floats afterwards. -/
theorem holdsFloats_console {c : Console} {name : String} (h : HoldsFloats (.console c)) :
    ((∃ x, (Console.resolver.resolve c name).answer = .ok (.float x)) ∨
        ∃ e, (Console.resolver.resolve c name).answer = .error (.error e)) ∧
      HoldsFloats (.console (Console.resolver.resolve c name).state) := by
  cases hv : c.known.get? name with
  | some v =>
    obtain ⟨x, rfl⟩ := h name v hv
    rw [Console.resolve_of_known hv]
    exact ⟨.inl ⟨x, rfl⟩, h⟩
  | none =>
    rw [Console.resolve_of_unknown hv]
    cases hx : c.typed? with
    | some x =>
      obtain ⟨hanswer, hknown⟩ := @Console.ask_of_typed c name x hx
      refine ⟨.inl ⟨x, hanswer⟩, fun other v hother => ?_⟩
      rw [hknown, Bindings.get?_insert] at hother
      split at hother
      · cases hother
        exact ⟨x, rfl⟩
      · exact h other v hother
    | none =>
      obtain ⟨⟨want, hanswer⟩, hknown⟩ := @Console.ask_of_not_typed c name hx
      refine ⟨.inr ⟨_, hanswer⟩, fun other v hother => ?_⟩
      rw [hknown] at hother
      exact h other v hother

theorem isPlain_holdsFloats : Source.resolver.IsPlain HoldsFloats where
  answer source name h := by
    cases source with
    | table bindings =>
      unfold Source.resolver Resolver.table
      dsimp only
      cases hv : bindings.get? name with
      | some v =>
        obtain ⟨x, rfl⟩ := h name v hv
        exact .inl ⟨x, rfl⟩
      | none => exact .inr ⟨_, rfl⟩
    | console c => exact (holdsFloats_console h).1
    | script script => cases h
  stays source name h := by
    cases source with
    | table bindings =>
      have hstate : (Source.resolver.resolve (.table bindings) name).state = .table bindings :=
        (Source.answers_table bindings [name]).2
      rw [hstate]
      exact h
    | console c => exact (holdsFloats_console h).2
    | script script => cases h

theorem holdsFloats_sourceOf (settings : Settings) (assigned : List (String × Float))
    (prompts : Bool) (input : List String) :
    HoldsFloats (sourceOf settings (.ofList assigned) prompts input) := by
  have hfloat : ∀ name v, (known settings (.ofList assigned)).get? name = some v →
      ∃ x, v = .float x := by
    intro name v hv
    rw [get?_known] at hv
    obtain ⟨x, -, rfl⟩ := Option.map_eq_some_iff.mp hv
    exact ⟨x, rfl⟩
  unfold sourceOf
  split
  · exact hfloat
  · exact hfloat

/-! ### Configuration files -/

section Config

variable {site : Site} {config : Option String} {fault : Fault}

theorem config?_of_withholds (h : Withholds site config fault) :
    site.config? config = .error (.crash fault) := by
  cases h with
  | named hallowed h =>
    unfold Site.config?
    simp only [hallowed, h]
    rfl
  | default h =>
    unfold Site.config? Site.defaultConfig?
    rw [h]
    rfl

/-- Without a configuration file that could be used, a run ends with a usage error unless the file
is not given out. -/
theorem withholds_or_usage_of_config? {report : Report} (h : site.config? config = .error report) :
    (∃ fault, Withholds site config fault ∧ report = .crash fault) ∨
      ∃ complaint, report = .usage complaint := by
  cases config with
  | none =>
    obtain ⟨fault, hfault, rfl⟩ := mapError_eq_error.mp h
    exact .inl ⟨fault, .default (map_eq_error.mp hfault), rfl⟩
  | some given =>
    unfold Site.config? at h
    dsimp only at h
    cases hdenied : site.denies given with
    | true =>
      rw [hdenied] at h
      cases h
      exact .inr ⟨_, rfl⟩
    | false =>
      rw [hdenied] at h
      cases hbytes : (site.look (plainPath given)).bytes with
      | error fault =>
        rw [hbytes] at h
        cases h
        exact .inl ⟨fault, .named hdenied hbytes, rfl⟩
      | ok bytes? =>
        rw [hbytes] at h
        cases bytes? with
        | none =>
          cases h
          exact .inr ⟨_, rfl⟩
        | some bytes => cases h

/-- What a configuration file that is not found, not given out or not usable comes to. -/
theorem endsBy_of_config_error {report : Report}
    (h : (site.config? config).bind (settingsOf site.limits) = .error report) :
    report.EndsBy fun fault => Withholds site config fault ∨
      ∃ path bytes, site.config? config = .ok (some (path, bytes)) ∧
        Settings.Spoils site.limits bytes fault := by
  have hwithholds : ∀ {fault}, Withholds site config fault →
      site.config? config = .error (.crash fault) := config?_of_withholds
  cases hc : site.config? config with
  | error report' =>
    rw [hc] at h hwithholds
    cases h
    rcases withholds_or_usage_of_config? hc with ⟨fault, hfault, rfl⟩ | ⟨complaint, rfl⟩
    · refine endsBy_crash fault fun fault' => ⟨fun h => .inl (h ▸ hfault), ?_⟩
      rintro (hfault' | ⟨path, bytes, hfile, -⟩)
      · cases hwithholds hfault'
        rfl
      · cases hfile
    · refine endsBy_usage complaint fun fault => ?_
      rintro (hfault | ⟨path, bytes, hfile, -⟩)
      · cases hwithholds hfault
      · cases hfile
  | ok file =>
    -- the file has been given out, so only its contents can be at fault
    rw [hc] at h hwithholds
    cases file with
    | none => cases h
    | some file =>
      obtain ⟨path, bytes⟩ := file
      obtain ⟨f, hf, rfl⟩ := mapError_eq_error.mp h
      refine (endsBy_ofFailure Error.message f).congr fun fault => ⟨?_, ?_⟩
      · rintro rfl
        exact .inr ⟨path, bytes, rfl, Settings.ofBytes_eq_fault_iff.mp hf⟩
      · rintro (hfault | ⟨_, _, hfile, hspoils⟩)
        · cases hwithholds hfault
        · cases hfile
          rw [Settings.ofBytes_eq_fault_iff.mpr hspoils] at hf
          cases hf
          rfl

end Config

/-! ### Runs -/

section Run

variable {site : Site} {arguments : List String} {expression : String} {assignments : List String}
  {prompts : Bool} {config levelName : Option String} {settings : Settings} {fault : Fault}

/-- What an evaluation with settings comes to. -/
theorem endsBy_evalReport (limits : Limits) (settings : Settings) (assignments : List String)
    (prompts : Bool) (expression : String) (input : List String) :
    (evalReport limits settings assignments prompts expression input).EndsBy fun fault =>
      fault = .infiniteAngle ∧
        ∃ assigned tokens g angle, assignments.mapM Assignment.ofText = .ok assigned ∧
          Token.ofText expression = .ok tokens ∧
          Applies Source.resolver limits.parentheses
            (sourceOf settings (.ofList assigned) prompts input) tokens g angle ∧
          angle.isInf = true := by
  cases hassigned : assignments.mapM Assignment.ofText with
  | error flaw =>
    have hreport : evalReport limits settings assignments prompts expression input =
        .usage flaw.message := by
      unfold evalReport Assignment.bindings
      rw [hassigned]
      rfl
    rw [hreport]
    refine endsBy_usage flaw.message fun fault => ?_
    rintro ⟨-, assigned, _, _, _, h, -⟩
    cases h
  | ok assigned =>
    rw [evalReport_of_ok limits hassigned]
    refine (tells_evaluationReport limits _ expression).endsBy.congr fun fault => ?_
    rw [result_calculateWithin_eq_fault_iff isPlain_holdsFloats
      (holdsFloats_sourceOf settings assigned prompts input)]
    constructor
    · rintro ⟨rfl, tokens, g, angle, h⟩
      exact ⟨rfl, assigned, tokens, g, angle, rfl, h⟩
    · rintro ⟨rfl, _, tokens, g, angle, ⟨⟩, h⟩
      exact ⟨rfl, tokens, g, angle, h⟩

theorem run_eq_of_config_error {report : Report}
    (hargs : Invocation.ofArguments arguments =
      some ⟨.eval expression assignments prompts config, levelName⟩)
    (h : (site.config? config).bind (settingsOf site.limits) = .error report) :
    run site arguments = report := by
  unfold run
  rw [hargs]
  show site.withSettings levelName config _ = report
  unfold Site.withSettings
  rw [h]

/-- What a run that evaluates an expression comes to. -/
theorem endsBy_run_of_eval
    (hargs : Invocation.ofArguments arguments =
      some ⟨.eval expression assignments prompts config, levelName⟩) :
    (run site arguments).EndsBy (Crashes site (.eval expression assignments prompts config)) := by
  cases h : (site.config? config).bind (settingsOf site.limits) with
  | error report =>
    rw [run_eq_of_config_error hargs h]
    refine (endsBy_of_config_error h).congr fun fault => ⟨?_, ?_⟩
    · rintro (hwithholds | ⟨path, bytes, hfile, hspoils⟩)
      · exact .file hwithholds
      · exact .configuration hfile hspoils
    · intro hcrash
      cases hcrash with
      | file hwithholds => exact .inl hwithholds
      | configuration hfile hspoils => exact .inr ⟨_, _, hfile, hspoils⟩
      | angle hsettings =>
        rw [h] at hsettings
        cases hsettings
  | ok settings =>
    obtain ⟨level, events, hrun⟩ := run_eq_of_eval hargs h
    rw [hrun]
    refine ((endsBy_evalReport ..).with level events).congr fun fault => ⟨?_, ?_⟩
    · rintro ⟨rfl, assigned, tokens, g, angle, hassigned, hlex, happ, hinf⟩
      exact .angle h hassigned hlex happ hinf
    · -- with usable settings the file is neither withheld nor at fault
      intro hcrash
      cases hcrash with
      | file hwithholds =>
        rw [config?_of_withholds hwithholds] at h
        cases h
      | configuration hfile hspoils =>
        rw [hfile] at h
        have hread := mapError_eq_ok.mp h
        rw [Settings.ofBytes_eq_fault_iff.mpr hspoils] at hread
        cases hread
      | angle hsettings hassigned hlex happ hinf =>
        rw [h] at hsettings
        cases hsettings
        exact ⟨rfl, _, _, _, _, hassigned, hlex, happ, hinf⟩

/-- A run that is given up ends by the fault that it is given up for. -/
theorem endsBy_run_of_refuse
    (hargs : Invocation.ofArguments arguments = some ⟨.refuse fault, levelName⟩) :
    (run site arguments).EndsBy (Crashes site (.refuse fault)) := by
  have hrun : run site arguments = .crash fault := by
    unfold run
    rw [hargs]
    rfl
  rw [hrun]
  refine endsBy_crash fault fun fault' => ⟨?_, ?_⟩
  · rintro rfl
    exact .path
  · rintro ⟨⟩
    rfl

/-- Whether a task is an evaluation, or a command that is given up for the path of its configuration
file. -/
inductive Task.IsEvaluation : Task → Prop
  | eval {expression : String} {assignments : List String} {prompts : Bool}
      {config : Option String} : IsEvaluation (.eval expression assignments prompts config)
  | refuse {fault : Fault} : IsEvaluation (.refuse fault)

/-- **A run that evaluates an expression ends in order unless a fault ends it**: arguments that are
wrong lead to a usage error, and arguments that ask for an evaluation lead to a result, to an error
or to a usage error, or to one of the faults of `Crashes`, each in exactly the cases it names. -/
theorem run_isOrderly_iff (site : Site) (arguments : List String)
    (hask : Invocation.ofArguments arguments = none ∨ ∃ task levelName,
      Invocation.ofArguments arguments = some ⟨task, levelName⟩ ∧ task.IsEvaluation) :
    let report := run site arguments
    let crashes := fun fault => ∃ task levelName,
      Invocation.ofArguments arguments = some ⟨task, levelName⟩ ∧ Crashes site task fault
    (report.IsOrderly ↔ ¬ ∃ fault, crashes fault) ∧
      ∀ fault, report.fault = some fault ↔ crashes fault := by
  intro report crashes
  have hends : report.EndsBy crashes := by
    rcases hask with hargs | ⟨task, levelName, hargs, htask⟩
    · have hreport : report = .usage usageLine := by
        simp only [report, run, hargs]
      rw [hreport]
      refine endsBy_usage usageLine fun fault => ?_
      rintro ⟨task, levelName, hargs', -⟩
      rw [hargs] at hargs'
      cases hargs'
    · have hrun : report.EndsBy (Crashes site task) := by
        cases htask with
        | eval => exact endsBy_run_of_eval hargs
        | refuse => exact endsBy_run_of_refuse hargs
      refine hrun.congr fun fault => ⟨fun h => ⟨task, levelName, hargs, h⟩, ?_⟩
      rintro ⟨_, _, hargs', h⟩
      rw [hargs] at hargs'
      cases hargs'
      exact h
  refine ⟨hends.isOrderly_iff.trans ?_, hends.fault_eq_iff⟩
  simp only [← hends.fault_eq_iff, Option.eq_none_iff_forall_ne_some, not_exists, ne_eq]

/-- A folder with a configuration of one byte, which is no text. -/
def undecodableSite : Site where
  folder := "/home"
  look name := if name = Settings.fileName then .file (.ok ⟨#[0xff]⟩) else .nothing

/-- There no evaluation ends in order, not even one that needs no variable. -/
theorem run_isOrderly_iff_undecodable :
    let arguments := evalArguments "1" [] true none
    (Invocation.ofArguments arguments = none ∨ ∃ task levelName,
        Invocation.ofArguments arguments = some ⟨task, levelName⟩ ∧ task.IsEvaluation) ∧
      (run undecodableSite arguments).fault = some .undecodable ∧
      ¬ (run undecodableSite arguments).IsOrderly := by
  intro arguments
  have hargs := ofArguments_evalArguments "1" [] true none rfl
  have hask : Invocation.ofArguments arguments = none ∨ ∃ task levelName,
      Invocation.ofArguments arguments = some ⟨task, levelName⟩ ∧ task.IsEvaluation :=
    .inr ⟨_, _, hargs, .eval⟩
  obtain ⟨horderly, hfault⟩ := run_isOrderly_iff undecodableSite arguments hask
  have hundecodable : String.fromUTF8? ⟨#[0xff]⟩ = none := by decide +kernel
  have hcrash : Crashes undecodableSite (.eval "1" [] true none) .undecodable :=
    .configuration rfl (.undecodable hundecodable)
  exact ⟨hask, (hfault .undecodable).mpr ⟨_, _, hargs, hcrash⟩,
    fun h => horderly.mp h ⟨_, _, _, hargs, hcrash⟩⟩

/-- Not every run that evaluates an expression ends in order: `sin(x)` does not if `x` is
infinite. -/
theorem not_forall_isOrderly :
    ¬ ∀ (site : Site) (arguments : List String),
      (Invocation.ofArguments arguments = none ∨ ∃ task levelName,
        Invocation.ofArguments arguments = some ⟨task, levelName⟩ ∧ task.IsEvaluation) →
      (run site arguments).IsOrderly := by
  intro h
  have hargs : Invocation.ofArguments ["eval", "sin(x)", "--var", "x=inf"] =
      some ⟨.eval "sin(x)" ["x=inf"] true none, none⟩ := by
    decide +kernel
  have horderly := h { folder := "/home" } _ (.inr ⟨_, _, hargs, .eval⟩)
  have hfault : (run { folder := "/home" }
      ["eval", "sin(x)", "--var", "x=inf"]).fault = some .infiniteAngle := by
    decide +kernel
  rw [(endsBy_run_of_eval hargs).isOrderly_iff.mp horderly] at hfault
  cases hfault

end Run

end Calculator.Command
