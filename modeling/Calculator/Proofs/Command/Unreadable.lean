import Calculator.Proofs.Command.Evaluation
import Calculator.Proofs.Token.Stray

/-!
# Texts that cannot be read

A text with a character that belongs to no token is refused as a whole, before anything of it is
evaluated (`unreadable_refused`): no variable is queried, and the commands that evaluate an
expression and that show its tokens say the same about it.
-/

namespace Calculator.Command

open Calculator.Text

/-- Whether a report shows a message as an error, and nothing else, and ends the run with that. -/
structure Report.ShowsError (r : Report) (message : String) : Prop where
  prompts : r.prompts = []
  closing : r.closing = Text.shown ("Error: " ++ message) ++ "\n"
  complaint : r.complaint = ""
  exit : r.exit = 1
  fault : r.fault = none

theorem Report.showsError_failure (message : String) : (failure message).ShowsError message :=
  ⟨rfl, rfl, rfl, rfl, rfl⟩

/-- The level and the events of a report make no difference to what it shows. -/
theorem Report.ShowsError.with {r : Report} {message : String} (h : r.ShowsError message)
    (level : Level) (events : List Event) :
    Report.ShowsError { r with level, events } message :=
  ⟨h.prompts, h.closing, h.complaint, h.exit, h.fault⟩

section Report

variable {source : String} {e : Error}

/-- Nobody has been asked for anything before the first query. -/
theorem asked_sourceOf (settings : Settings) (assigned : List (String × Float)) (prompts : Bool)
    (input : List String) :
    (sourceOf settings (.ofList assigned) prompts input).asked = #[] := by
  unfold sourceOf
  split <;> rfl

theorem calculateWithin_of_ofText_eq_error {σ : Type} (R : Resolver σ) (limit : Nat) (state : σ)
    (he : Token.ofText source = .error e) :
    calculateWithin R limit state source =
      ⟨.error (.error (e.attachSource source)), 0, { state }⟩ := by
  rw [calculateWithin, he]

theorem showsError_evaluationReport (limits : Limits) (origin : Source)
    (hasked : origin.asked = #[]) (he : Token.ofText source = .error e) :
    (evaluationReport limits origin source).ShowsError (e.attachSource source).text := by
  unfold evaluationReport
  rw [calculateWithin_of_ofText_eq_error _ _ _ he]
  exact ⟨by simp [Report.after, hasked, Report.ofFailure, Report.failure], rfl, rfl, rfl, rfl⟩

theorem showsError_tokensReport (he : Token.ofText source = .error e) :
    (tokensReport source).ShowsError (e.attachSource source).text := by
  rw [tokensReport, he]
  exact Report.showsError_failure _

end Report

section Run

variable {site : Site} {arguments : List String} {source : String} {e : Error}
  {assignments : List String} {prompts : Bool} {config levelName : Option String}
  {settings : Settings} {assigned : List (String × Float)}

theorem showsError_run_of_eval
    (hargs : Invocation.ofArguments arguments =
      some ⟨.eval source assignments prompts config, levelName⟩)
    (hsettings : (site.config? config).bind (settingsOf site.limits) = .ok settings)
    (hassigned : assignments.mapM Assignment.ofText = .ok assigned)
    (he : Token.ofText source = .error e) :
    (run site arguments).ShowsError (e.attachSource source).text := by
  obtain ⟨level, events, hrun⟩ := run_eq_of_eval hargs hsettings
  rw [hrun, evalReport_of_ok site.limits hassigned]
  exact (showsError_evaluationReport _ _ (asked_sourceOf ..) he).with level events

theorem showsError_run_of_tokens
    (hargs : Invocation.ofArguments arguments = some ⟨.tokens source, levelName⟩)
    (hsettings : (site.config? none).bind (settingsOf site.limits) = .ok settings)
    (he : Token.ofText source = .error e) :
    (run site arguments).ShowsError (e.attachSource source).text := by
  obtain ⟨level, events, hrun⟩ : ∃ level events, run site arguments =
      { tokensReport source with level, events } := by
    unfold run
    rw [hargs]
    exact withSettings_of_ok levelName (fun _ => tokensReport source) hsettings
  rw [hrun]
  exact (showsError_tokensReport he).with level events

end Run

/-- **A text is refused for its first character that belongs to no token**, and exactly for such a
character.  Then nothing of it is evaluated: a calculation fails with this error, whatever comes
before the character, and neither queries a variable nor changes the resolver.  Both commands that
read the text, with settings that can be used and assignments that are good, show the same error and
nothing else. -/
theorem unreadable_refused (source : String) :
    ((∃ e, Token.ofText source = .error e) ↔ ∃ c ∈ source.toList, ¬ Token.Readable c) ∧
      ∀ e, Token.ofText source = .error e →
        (∃ before c after, source.toList = before ++ c :: after ∧
          (∀ d ∈ before, Token.Readable d) ∧ ¬ Token.Readable c ∧
          e.cause = .unexpectedCharacter c.toString ∧ e.pos = some before.length) ∧
        (∀ {σ : Type} (R : Resolver σ) (limit : Nat) (state : σ),
          let outcome := calculateWithin R limit state source
          outcome.result = .error (.error (e.attachSource source)) ∧
            outcome.log.queries = #[] ∧ outcome.log.state = state) ∧
        ∀ (site : Site) (evalArguments tokensArguments assignments : List String) (prompts : Bool)
          (config levelName levelName' : Option String) (settings settings' : Settings)
          (assigned : List (String × Float)),
          Invocation.ofArguments evalArguments =
            some ⟨.eval source assignments prompts config, levelName⟩ →
          Invocation.ofArguments tokensArguments = some ⟨.tokens source, levelName'⟩ →
          (site.config? config).bind (settingsOf site.limits) = .ok settings →
          (site.config? none).bind (settingsOf site.limits) = .ok settings' →
          assignments.mapM Assignment.ofText = .ok assigned →
          (run site evalArguments).ShowsError (e.attachSource source).text ∧
            (run site tokensArguments).ShowsError (e.attachSource source).text := by
  refine ⟨?_, fun e he => ⟨?_, ?_, ?_⟩⟩
  · simp only [Token.exists_ofText_eq_error_iff, Token.isStray_eq_true_iff]
  · obtain ⟨before, c, after, hsource, hbefore, hstray, rfl⟩ :=
      Token.ofText_eq_error_iff_exists_append.mp he
    exact ⟨before, c, after, hsource, fun d hd => Token.isStray_eq_false_iff.mp (hbefore d hd),
      Token.isStray_eq_true_iff.mp hstray, rfl, rfl⟩
  · intro σ R limit state
    rw [calculateWithin_of_ofText_eq_error R limit state he]
    exact ⟨rfl, rfl, rfl⟩
  · intro site evalArguments tokensArguments assignments prompts config levelName levelName'
      settings settings' assigned heval htokens hsettings hsettings' hassigned
    exact ⟨showsError_run_of_eval heval hsettings hassigned he,
      showsError_run_of_tokens htokens hsettings' he⟩

/-- A folder without a configuration. -/
def bareSite : Site where
  folder := "/home"

/-- A division by zero is not noticed in front of a character that belongs to no token. -/
theorem unreadable_refused_quotient :
    ∃ e, Token.ofText "1/0$x" = .error e ∧ e.pos = some 3 ∧
      (calculateWithin Resolver.table bareSite.limits.parentheses {} "1/0$x").log.queries = #[] ∧
      (run bareSite (evalArguments "1/0$x" ["x=2"] true none)).ShowsError
        (e.attachSource "1/0$x").text ∧
      (run bareSite ["tokens", "1/0$x"]).ShowsError (e.attachSource "1/0$x").text := by
  have he : Token.ofText "1/0$x" = .error (Token.strayError '$' 3) := by decide +kernel
  have hassigned : ["x=2"].mapM Assignment.ofText = .ok [("x", 2.0)] := by decide +kernel
  have htokens : Invocation.ofArguments ["tokens", "1/0$x"] = some ⟨.tokens "1/0$x", none⟩ := by
    decide +kernel
  have hsettings : (bareSite.config? none).bind (settingsOf .usual) = .ok {} := rfl
  obtain ⟨-, hcalculate, hrun⟩ := (unreadable_refused "1/0$x").2 _ he
  obtain ⟨heval, hshown⟩ := hrun bareSite _ _ _ _ _ _ _ _ _ _
    (ofArguments_evalArguments "1/0$x" ["x=2"] true none rfl) htokens hsettings hsettings hassigned
  exact ⟨_, he, rfl, (hcalculate Resolver.table _ {}).2.1, heval, hshown⟩

end Calculator.Command
