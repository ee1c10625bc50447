import Calculator.Proofs.Evaluation.Replay
import Calculator.Proofs.Grammar.Draft
import Calculator.Resolver.Console

/-!
# What an evaluation queries and reports

The record of an evaluation is read off its tokens and the answers of the resolver: the variables
before the cursor are queried one after the other (`queries_evaluate`), and what is reported is,
with each query, what the resolver reports of it and then the number that it answered with, and
behind all of them the value of the expression (`events_evaluate`).  Together: `evaluate_recorded`.
-/

namespace Calculator

variable {σ : Type}

/-! ### What is reported of one query -/

/-- The number that the resolver answered with, if it did answer with one. -/
def Exchange.number? (e : Exchange σ) : Option Float :=
  e.reply.answer.toOption.bind fun value => value.toFloat.toOption

/-- What is reported of a query: whatever the resolver reports, and then the number, if there is
one. -/
def Exchange.events (e : Exchange σ) : List Event :=
  e.reply.events ++ (e.number?.map (.resolved e.name)).toList

/-- The messages of the events that come from one part of the calculator. -/
def Event.messagesFrom (origin : String) (events : List Event) : List String :=
  (events.filter fun e => e.origin = origin).map message

theorem Event.messagesFrom_append (origin : String) (events others : List Event) :
    messagesFrom origin (events ++ others) =
      messagesFrom origin events ++ messagesFrom origin others := by
  unfold messagesFrom
  rw [List.filter_append, List.map_append]

theorem Event.messagesFrom_eq_nil {origin : String} {events : List Event}
    (h : ∀ e ∈ events, e.origin ≠ origin) : messagesFrom origin events = [] := by
  have hnone : events.filter (fun e => e.origin = origin) = [] :=
    List.filter_eq_nil_iff.mpr fun e he => by simpa using h e he
  rw [messagesFrom, hnone, List.map_nil]

namespace Evaluation

variable {R : Resolver σ} {log : Transcript σ} {t : Token}

/-- The value of a variable is the number that the resolver answered with. -/
theorem toOption_answerValue (e : Exchange σ) :
    (answerValue t e.reply.answer).toOption = e.number? := by
  unfold answerValue Exchange.number?
  cases e.reply.answer with
  | error f => rfl
  | ok value =>
    show ((value.toFloat.mapError Failure.fault).mapError (queryFailure t)).toOption =
      value.toFloat.toOption
    cases value.toFloat <;> rfl

theorem events_query :
    (log.query R t).2.events.toList =
      log.events.toList ++
        Exchange.events ⟨log.state, t.text, R.resolve log.state t.text⟩ := by
  have hnumber := toOption_answerValue (t := t) ⟨log.state, t.text, R.resolve log.state t.text⟩
  unfold Transcript.query Exchange.events
  rw [← hnumber]
  dsimp only
  cases answerValue t (R.resolve log.state t.text).answer with
  | error e => simp [Except.toOption]
  | ok x => simp [Except.toOption]

theorem events_read (log : Transcript σ) (t : Token) :
    (log.read R t).events.toList =
      log.events.toList ++
        (R.exchanges log.state (variableNames [t])).flatMap Exchange.events := by
  unfold Transcript.read
  split
  · next h =>
    rw [events_query, variableNames_of_variable h]
    exact congrArg _ (List.append_nil _).symm
  · next h =>
    rw [variableNames_of_ne h]
    exact (List.append_nil _).symm

theorem events_readAll (log : Transcript σ) (ts : List Token) :
    (log.readAll R ts).events.toList =
      log.events.toList ++ (R.exchanges log.state (variableNames ts)).flatMap Exchange.events := by
  induction ts generalizing log with
  | nil => exact (List.append_nil _).symm
  | cons t ts ih =>
    have hnames : variableNames (t :: ts) = variableNames [t] ++ variableNames ts := by
      rw [← variableNames_append, List.singleton_append]
    show ((log.read R t).readAll R ts).events.toList = _
    rw [ih, events_read, state_read, hnames, Resolver.exchanges_append, List.flatMap_append,
      List.append_assoc]

/-! ### Whole evaluations -/

/-- What is reported of the queries, and behind that the value if there is one. -/
theorem events_evaluate (R : Resolver σ) (limit : Nat) (state : σ) (tokens : List Token) :
    let outcome := evaluate R limit state tokens
    outcome.log.events.toList =
      (R.exchanges state outcome.log.queries.toList).flatMap Exchange.events ++
        (outcome.result.toOption.map (.evaluated tokens.length)).toList := by
  intro outcome
  cases hend : isTerminated tokens with
  | false =>
    have hout : outcome = ⟨.error (.fault .unterminated), 0, { state }⟩ := by
      simp only [outcome, evaluate, hend, Bool.false_eq_true, ↓reduceIte]
    rw [hout]
    rfl
  | true =>
    have hout : outcome = ((Progress.start state tokens).outcome R limit .whole).reported
        tokens.length := Progress.evaluate_of_isTerminated state hend
    -- until the value is reported, everything that is reported comes from a query
    have hevents : ((Progress.start state tokens).outcome R limit .whole).log.events.toList =
        (R.exchanges state ((Progress.start state tokens).outcome R limit
          .whole).log.queries.toList).flatMap Exchange.events := by
      rw [Progress.log_outcome, events_readAll, queries_readAll]
      rfl
    rw [hout, queries_reported, ← hevents, events_reported, result_reported]
    cases ((Progress.start state tokens).outcome R limit .whole).result with
    | error e => exact (List.append_nil _).symm
    | ok x => exact Array.toList_push

/-- The part of the calculator that evaluates tokens. -/
def evaluatorOrigin : String :=
  "reckon.core.expression_lang.evaluator"

/-- A query makes the evaluator report one line if the resolver answers with a number, and none
otherwise. -/
theorem messagesFrom_events {e : Exchange σ}
    (h : ∀ event ∈ e.reply.events, event.origin ≠ evaluatorOrigin) :
    Event.messagesFrom evaluatorOrigin e.events =
      (e.number?.map fun x => "Resolved " ++ e.name ++ " = " ++ numberText x).toList := by
  unfold Exchange.events
  rw [Event.messagesFrom_append, Event.messagesFrom_eq_nil h, List.nil_append]
  cases e.number? <;> rfl

theorem messagesFrom_flatMap_events {es : List (Exchange σ)}
    (h : ∀ e ∈ es, ∀ event ∈ e.reply.events, event.origin ≠ evaluatorOrigin) :
    Event.messagesFrom evaluatorOrigin (es.flatMap Exchange.events) =
      es.filterMap fun e =>
        e.number?.map fun x => "Resolved " ++ e.name ++ " = " ++ numberText x := by
  induction es with
  | nil => rfl
  | cons e es ih =>
    rw [List.flatMap_cons, Event.messagesFrom_append,
      messagesFrom_events (h e (List.mem_cons_self ..)),
      ih fun d hd => h d (List.mem_cons_of_mem _ hd), List.filterMap_cons]
    cases e.number? <;> rfl

/-- **An evaluation keeps its record**: the variables before the cursor are queried in their order,
each time that they occur; if there is a value, the cursor has come to the first end, so that every
variable before it has been queried; and what is reported is, with each query, what the resolver
reports of it and the number that it answered with, and at last the value.  Unless the resolver
speaks in its name, the evaluator reports one line for each query that was answered with a number
and one for the value. -/
theorem evaluate_recorded (R : Resolver σ) (limit : Nat) (state : σ) (tokens : List Token) :
    let outcome := evaluate R limit state tokens
    let exchanges := R.exchanges state outcome.log.queries.toList
    outcome.log.queries.toList =
        ((tokens.take outcome.cursor).filter fun t => t.kind = .variable).map Token.text ∧
      (∀ x, outcome.result = .ok x → outcome.cursor = firstEnd tokens) ∧
      outcome.log.events.toList = exchanges.flatMap Exchange.events ++
        (outcome.result.toOption.map (.evaluated tokens.length)).toList ∧
      ((∀ e ∈ exchanges, ∀ event ∈ e.reply.events, event.origin ≠ evaluatorOrigin) →
        Event.messagesFrom evaluatorOrigin outcome.log.events.toList =
          (exchanges.filterMap fun e =>
            e.number?.map fun x => "Resolved " ++ e.name ++ " = " ++ numberText x) ++
          (outcome.result.toOption.map fun x =>
            "Evaluated " ++ toString tokens.length ++ " tokens to " ++ numberText x).toList) := by
  intro outcome exchanges
  have hevents : outcome.log.events.toList = exchanges.flatMap Exchange.events ++
      (outcome.result.toOption.map (.evaluated tokens.length)).toList :=
    events_evaluate R limit state tokens
  refine ⟨queries_evaluate R limit state tokens, ?_, hevents, ?_⟩
  · intro x hx
    cases hend : isTerminated tokens with
    | false =>
      simp only [outcome, evaluate, hend, Bool.false_eq_true, ↓reduceIte] at hx
      cases hx
    | true => exact cursor_evaluate hend hx
  · intro hsilent
    rw [hevents, Event.messagesFrom_append, messagesFrom_flatMap_events hsilent]
    cases outcome.result.toOption <;> rfl

/-- The tokens of `x*y` with an end behind them. -/
def productTokens : List Token :=
  [Grammar.spelled .variable 'x' 0, Grammar.spelled .operator '*' 1,
    Grammar.spelled .variable 'y' 2, Token.atEnd 3]

/-- Where `x` is known and the user is asked for `y`, what is reported of the answer is not a line
of the evaluator. -/
theorem evaluate_recorded_product :
    let console : Console := { known := .ofList [("x", .float 3.0)], answers := ["4"] }
    let outcome := evaluate Console.resolver 0 console productTokens
    let exchanges := Console.resolver.exchanges console outcome.log.queries.toList
    outcome.result = .ok 12.0 ∧ outcome.cursor = firstEnd productTokens ∧
      outcome.log.queries.toList = ["x", "y"] ∧
      outcome.log.events.toList =
        [.resolved "x" 3.0, .bound "y" 4.0, .resolved "y" 4.0, .evaluated 4 12.0] ∧
      (∀ e ∈ exchanges, ∀ event ∈ e.reply.events, event.origin ≠ evaluatorOrigin) ∧
      Event.messagesFrom evaluatorOrigin outcome.log.events.toList =
        ["Resolved x = 3.0", "Resolved y = 4.0", "Evaluated 4 tokens to 12.0"] := by
  intro console outcome exchanges
  obtain ⟨hqueries, hcursor, hevents, hmessages⟩ :=
    evaluate_recorded Console.resolver 0 console productTokens
  have hresult : outcome.result = .ok 12.0 := by decide +kernel
  have hend : outcome.cursor = firstEnd productTokens := hcursor 12.0 hresult
  have hnames : outcome.log.queries.toList = ["x", "y"] := by
    rw [hqueries, hend]
    decide +kernel
  have hsilent : ∀ e ∈ exchanges, ∀ event ∈ e.reply.events, event.origin ≠ evaluatorOrigin := by
    simp only [exchanges, hnames]
    decide +kernel
  refine ⟨hresult, hend, hnames, ?_, hsilent, ?_⟩
  · rw [hevents, hnames, hresult]
    decide +kernel
  · rw [hmessages hsilent, hnames, hresult]
    decide +kernel

end Evaluation

end Calculator
