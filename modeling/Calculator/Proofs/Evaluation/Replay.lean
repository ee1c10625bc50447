import Calculator.Calculation
import Calculator.Proofs.Evaluation.Query
import Calculator.Proofs.Evaluation.Span
import Calculator.Resolver.Exchange

/-!
# Evaluations depend on the answers to their queries

The queries of an evaluation are those of the variables before its cursor, each time that they
occur (`queries_outcome`), and nothing else is asked of the resolver (`state_outcome`).  A query
that fails is the last one, and its failure is that of the evaluation
(`result_of_getElem?_exchanges`).  Another resolver that
gives the same answers to the same queries leads to the same result (`outcome_congr`).
-/

namespace Calculator.Evaluation

variable {σ τ : Type} {R : Resolver σ} {R' : Resolver τ} {limit : Nat} {goal : Goal}

/-! ### Names -/

/-- The names of the variables among tokens, as often as they occur. -/
def variableNames (ts : List Token) : List String :=
  (ts.filter fun t => t.kind = .variable).map Token.text

theorem variableNames_append (ts us : List Token) :
    variableNames (ts ++ us) = variableNames ts ++ variableNames us := by
  unfold variableNames
  rw [List.filter_append, List.map_append]

theorem variableNames_of_variable {t : Token} (h : t.kind = .variable) :
    variableNames [t] = [t.text] := by
  simp [variableNames, h]

theorem variableNames_of_ne {t : Token} (h : t.kind ≠ .variable) : variableNames [t] = [] := by
  simp [variableNames, h]

theorem queries_read (log : Transcript σ) (t : Token) :
    (log.read R t).queries.toList = log.queries.toList ++ variableNames [t] := by
  unfold Transcript.read
  split
  · next h => rw [queries_query, variableNames_of_variable h, Array.toList_push]
  · next h => rw [variableNames_of_ne h, List.append_nil]

theorem state_read (log : Transcript σ) (t : Token) :
    (log.read R t).state = R.after log.state (variableNames [t]) := by
  unfold Transcript.read
  split
  · next h =>
    rw [state_query, variableNames_of_variable h]
    rfl
  · next h =>
    rw [variableNames_of_ne h]
    rfl

theorem queries_readAll (log : Transcript σ) (ts : List Token) :
    (log.readAll R ts).queries.toList = log.queries.toList ++ variableNames ts := by
  induction ts generalizing log with
  | nil => exact (List.append_nil _).symm
  | cons t ts ih =>
    calc ((log.read R t).readAll R ts).queries.toList
      _ = (log.read R t).queries.toList ++ variableNames ts := ih _
      _ = log.queries.toList ++ (variableNames [t] ++ variableNames ts) := by
        rw [queries_read, List.append_assoc]
      _ = log.queries.toList ++ variableNames (t :: ts) := by
        rw [← variableNames_append, List.singleton_append]

theorem state_readAll (log : Transcript σ) (ts : List Token) :
    (log.readAll R ts).state = R.after log.state (variableNames ts) := by
  induction ts generalizing log with
  | nil => rfl
  | cons t ts ih =>
    calc ((log.read R t).readAll R ts).state
      _ = R.after (log.read R t).state (variableNames ts) := ih _
      _ = R.after log.state (variableNames [t] ++ variableNames ts) := by
        rw [state_read, ← Resolver.after_append]
      _ = R.after log.state (variableNames (t :: ts)) := by
        rw [← variableNames_append, List.singleton_append]

/-! ### Answers that are no numbers -/

/-- A query that fails is the failure of its variable. -/
theorem answerValue_of_failure? {e : Exchange σ} {f : Failure} (h : e.failure? = some f)
    (t : Token) : answerValue t e.reply.answer = .error (queryFailure t f) := by
  unfold Exchange.failure? at h
  split at h
  · next ha =>
    cases h
    exact answerValue_eq_error.mpr (.inl ⟨_, ha, rfl⟩)
  · next ha =>
    split at h
    · next hv =>
      cases h
      exact answerValue_eq_error.mpr (.inr ⟨_, _, ha, hv, rfl⟩)
    · cases h

namespace Progress

variable {p q r : Progress σ} {o : Outcome σ} {t : Token}

/-! ### The queries of an evaluation -/

/-- The names that an evaluation queries from some point on. -/
def queried (R : Resolver σ) (limit : Nat) (goal : Goal) (p : Progress σ) : List String :=
  variableNames (p.rest.take ((p.outcome R limit goal).cursor - p.cursor))

theorem queries_outcome (p : Progress σ) :
    (p.outcome R limit goal).log.queries.toList =
      p.log.queries.toList ++ p.queried R limit goal := by
  rw [log_outcome, queries_readAll]
  rfl

theorem state_outcome (p : Progress σ) :
    (p.outcome R limit goal).log.state = R.after p.log.state (p.queried R limit goal) := by
  rw [log_outcome, state_readAll]
  rfl

theorem queried_of_steps (h : Steps R limit goal p q) :
    p.queried R limit goal = variableNames (between p q) ++ q.queried R limit goal := by
  obtain ⟨hrest, hlength⟩ := rest_of_between h
  have hle := @cursor_le_outcome _ R limit goal q
  have hcount : (q.outcome R limit goal).cursor - p.cursor =
      (between p q).length + ((q.outcome R limit goal).cursor - q.cursor) := by
    omega
  unfold queried
  rw [outcome_eq_of_steps h, hcount, hrest, List.take_length_add_append, variableNames_append]

/-- Where an evaluation ends, the next token is the only one that may still be queried. -/
theorem queried_of_ends (h : Ends R limit goal p o) :
    o.cursor = p.cursor ∧ p.queried R limit goal = [] ∨
      ∃ t ts, p.rest = t :: ts ∧ o.cursor = p.cursor + 1 ∧
        p.queried R limit goal = variableNames [t] := by
  have hout := outcome_eq_of_ends h
  unfold queried
  rw [hout]
  rcases cursor_of_ends h with ⟨hc, -⟩ | ⟨t, ts, ht, hc, -, -⟩
  · exact .inl ⟨hc, by rw [hc, Nat.sub_self]; rfl⟩
  · refine .inr ⟨t, ts, ht, hc, ?_⟩
    rw [hc, ht, Nat.add_sub_cancel_left]
    rfl

/-- The queries of a span of tokens lead to the state of the resolver behind it. -/
theorem after_between (h : Steps R limit goal p q) :
    R.after p.log.state (variableNames (between p q)) = q.log.state := by
  rw [log_of_steps h, state_readAll]

/-! ### Failing queries -/

/-- An evaluation goes on from a variable only if the resolver answers with a number. -/
theorem failure?_of_step (h : Step R limit goal p q) (ht : p.rest = t :: q.rest)
    (hk : t.kind = .variable) :
    Exchange.failure? ⟨p.log.state, t.text, R.resolve p.log.state t.text⟩ = none := by
  cases h with
  | read h =>
    cases ht
    exact absurd hk (State.kind_of_reads h).2
  | answer h hx hy =>
    cases ht
    rw [fst_query, answerValue_eq_ok] at hx
    obtain ⟨value, ha, hvalue⟩ := hx
    exact Exchange.failure?_eq_none.mpr ⟨value, ha, _, hvalue⟩

theorem failure?_of_steps (h : Steps R limit goal p q) :
    ∀ e ∈ R.exchanges p.log.state (variableNames (between p q)), e.failure? = none := by
  refine between_induction (motive := fun us _ =>
    ∀ e ∈ R.exchanges p.log.state (variableNames us), e.failure? = none)
    h (fun e he => by cases he) ?_
  intro us q r t hsteps hus ih hstep ht e he
  rw [variableNames_append, Resolver.exchanges_append] at he
  rcases List.mem_append.mp he with he | he
  · exact ih e he
  · by_cases hk : t.kind = .variable
    · -- the state in front of the query is the one that the steps have led to
      have hstate : R.after p.log.state (variableNames us) = q.log.state :=
        hus ▸ after_between hsteps
      rw [variableNames_of_variable hk, hstate] at he
      rw [List.mem_singleton.mp he]
      exact failure?_of_step hstep ht hk
    · rw [variableNames_of_ne hk] at he
      cases he

/-- Of the queries of an evaluation only the last one may fail. -/
theorem answersButLast_queried (p : Progress σ) :
    R.AnswersButLast p.log.state (p.queried R limit goal) := by
  obtain ⟨q, hsteps, hends⟩ := @exists_steps_ends _ R limit goal p
  refine ⟨variableNames (between p q), q.queried R limit goal, queried_of_steps hsteps, ?_,
    List.forall_mem_map.mpr fun e he => ?_⟩
  · rcases queried_of_ends hends with ⟨-, hnone⟩ | ⟨t, -, -, -, hone⟩
    · rw [hnone]
      exact Nat.zero_le 1
    · rw [hone]
      unfold variableNames
      rw [List.length_map]
      exact List.length_filter_le _ [t]
  · obtain ⟨value, ha, -⟩ := Exchange.failure?_eq_none.mp (failure?_of_steps hsteps e he)
    exact ⟨value, ha⟩

theorem result_of_ends {ts : List Token} {e : Failure} (h : Ends R limit goal p o)
    (ht : p.rest = t :: ts) (hk : t.kind = .variable) (hc : o.cursor = p.cursor + 1)
    (he : (p.log.query R t).1 = .error e) : o.result = .error e := by
  cases h with
  | exhausted => cases ht
  | unanswered h hfails =>
    cases ht
    exact hfails.symm.trans he
  | unfit h hx hfails =>
    cases ht
    cases hx.symm.trans he
  | fail h =>
    cases ht
    exact absurd hk (State.kind_of_fails h).2
  | refuse h => exact absurd hc.symm (Nat.succ_ne_self _)
  | stop hp hs hw => exact absurd hc.symm (Nat.succ_ne_self _)

/-- **A query that fails is the last one, and its failure is that of the evaluation**: if query `k`
gives no number, then the ones before it did, none comes after it, and the evaluation fails as the
query of the variable that it is about. -/
theorem result_of_getElem?_exchanges {k : Nat} {e : Exchange σ} {f : Failure}
    (he : (R.exchanges p.log.state (p.queried R limit goal))[k]? = some e)
    (hf : e.failure? = some f) :
    (p.queried R limit goal).length = k + 1 ∧
      (∀ d ∈ (R.exchanges p.log.state (p.queried R limit goal)).take k, d.failure? = none) ∧
      ∃ t, (p.rest.filter fun t => t.kind = .variable)[k]? = some t ∧ t.text = e.name ∧
        (p.outcome R limit goal).result = .error (queryFailure t f) := by
  obtain ⟨q, hsteps, hends⟩ := @exists_steps_ends _ R limit goal p
  rw [queried_of_steps hsteps, Resolver.exchanges_append, after_between hsteps] at he ⊢
  have hanswered := failure?_of_steps hsteps
  generalize hearlier : R.exchanges p.log.state (variableNames (between p q)) = earlier
    at he hanswered ⊢
  have hlength : earlier.length = (variableNames (between p q)).length := by
    rw [← hearlier, Resolver.length_exchanges]
  -- the queries of the steps were answered, so that this one is the one at the end
  have hk : earlier.length ≤ k := by
    refine Nat.le_of_not_lt fun hlt => ?_
    rw [List.getElem?_append_left hlt] at he
    rw [hanswered e (List.mem_of_getElem? he)] at hf
    cases hf
  rw [List.getElem?_append_right hk] at he
  rcases queried_of_ends hends with ⟨-, hnone⟩ | ⟨t, ts, ht, hc, hone⟩
  · rw [hnone] at he
    cases he
  · rw [hone] at he ⊢
    by_cases hkind : t.kind = .variable
    · rw [variableNames_of_variable hkind] at he ⊢
      rw [Resolver.exchanges, Resolver.exchanges, List.getElem?_singleton] at he
      obtain ⟨hzero, he⟩ := Option.ite_none_right_eq_some.mp he
      cases he
      obtain rfl : k = earlier.length := by omega
      refine ⟨?_, ?_, t, ?_, rfl, ?_⟩
      · rw [List.length_append, List.length_singleton, hlength]
      · rw [List.take_left]
        exact hanswered
      · -- the variables of the steps have as many names as there were queries
        have hcount : ((between p q).filter fun t => t.kind = .variable).length =
            earlier.length := by
          rw [hlength, variableNames, List.length_map]
        rw [(rest_of_between hsteps).1, ht, List.filter_append,
          List.getElem?_append_right (Nat.le_of_eq hcount), hcount, Nat.sub_self,
          List.filter_cons_of_pos (by simpa using hkind)]
        rfl
      · exact result_of_ends hends ht hkind hc (fst_query.trans (answerValue_of_failure? hf t))
    · rw [variableNames_of_ne hkind] at he
      cases he

/-! ### Other resolvers with the same answers -/

/-- The same point of an evaluation with something else left behind. -/
def withLog (p : Progress σ) (log : Transcript τ) : Progress τ :=
  ⟨p.state, p.cursor, log, p.rest⟩

theorem fst_query_congr {log : Transcript σ} {log' : Transcript τ}
    (h : (R'.resolve log'.state t.text).answer = (R.resolve log.state t.text).answer) :
    (log'.query R' t).1 = (log.query R t).1 := by
  rw [fst_query, fst_query, h]

theorem answers_of_variable {names : List String} {state : σ} {state' : τ}
    (hk : t.kind = .variable)
    (h : R'.answers state' (names ++ variableNames [t]) =
      R.answers state (names ++ variableNames [t])) :
    R'.answers state' names = R.answers state names ∧
      (R'.resolve (R'.after state' names) t.text).answer =
        (R.resolve (R.after state names) t.text).answer := by
  rw [variableNames_of_variable hk, Resolver.answers_append, Resolver.answers_append] at h
  obtain ⟨hnames, hlast⟩ :=
    List.append_inj h (by rw [Resolver.length_answers, Resolver.length_answers])
  exact ⟨hnames, (List.cons.inj hlast).1⟩

theorem step_congr (R' : Resolver τ) (log' : Transcript τ) (h : Step R limit goal p q)
    (ht : p.rest = t :: q.rest)
    (ha : t.kind = .variable →
      (R'.resolve log'.state t.text).answer = (R.resolve p.log.state t.text).answer) :
    Step R' limit goal (p.withLog log') (q.withLog (log'.read R' t)) := by
  cases h with
  | read h =>
    cases ht
    rw [Transcript.read, if_neg (State.kind_of_reads h).2]
    exact .read h
  | answer h hx hy =>
    cases ht
    rw [Transcript.read, if_pos h]
    exact .answer h ((fst_query_congr (ha h)).trans hx) hy

theorem ends_congr (R' : Resolver τ) (log' : Transcript τ) (h : Ends R limit goal p o)
    (ha : ∀ t ts, p.rest = t :: ts → o.cursor = p.cursor + 1 → t.kind = .variable →
      (R'.resolve log'.state t.text).answer = (R.resolve p.log.state t.text).answer) :
    ∃ o', Ends R' limit goal (p.withLog log') o' ∧ o'.result = o.result ∧ o'.cursor = o.cursor := by
  cases h with
  | exhausted => exact ⟨_, .exhausted, rfl, rfl⟩
  | unanswered h he =>
    exact ⟨_, .unanswered h ((fst_query_congr (ha _ _ rfl rfl h)).trans he), rfl, rfl⟩
  | unfit h hx he =>
    exact ⟨_, .unfit h ((fst_query_congr (ha _ _ rfl rfl h)).trans hx) he, rfl, rfl⟩
  | fail h => exact ⟨_, .fail h, rfl, rfl⟩
  | refuse h => exact ⟨_, .refuse h, rfl, rfl⟩
  | stop hp hs hw => exact ⟨_, .stop hp hs hw, rfl, rfl⟩

theorem steps_congr (R' : Resolver τ) (log' : Transcript τ) (h : Steps R limit goal p q)
    (ha : R'.answers log'.state (variableNames (between p q)) =
      R.answers p.log.state (variableNames (between p q))) :
    Steps R' limit goal (p.withLog log') (q.withLog (log'.readAll R' (between p q))) := by
  refine between_induction (motive := fun us q =>
    R'.answers log'.state (variableNames us) = R.answers p.log.state (variableNames us) →
      Steps R' limit goal (p.withLog log') (q.withLog (log'.readAll R' us)))
    h (fun _ => .refl) ?_ ha
  intro us q r t hsteps hus ih hstep ht ha
  rw [variableNames_append] at ha
  rw [Transcript.readAll_snoc]
  -- the answer to a variable is the last one of those up to it, any other token has none
  by_cases hk : t.kind = .variable
  · obtain ⟨hnames, hlast⟩ := answers_of_variable hk ha
    rw [← state_readAll, ← state_readAll, hus, ← log_of_steps hsteps, ← hus] at hlast
    exact (ih hnames).tail (step_congr R' _ hstep ht fun _ => hlast)
  · rw [variableNames_of_ne hk, List.append_nil] at ha
    exact (ih ha).tail (step_congr R' _ hstep ht fun h => absurd h hk)

/-- **Only the answers count**: another resolver that answers the queries of an evaluation in the
same way leads to the same result. -/
theorem outcome_congr (R' : Resolver τ) (log' : Transcript τ)
    (ha : R'.answers log'.state (p.queried R limit goal) =
      R.answers p.log.state (p.queried R limit goal)) :
    ((p.withLog log').outcome R' limit goal).result = (p.outcome R limit goal).result ∧
      ((p.withLog log').outcome R' limit goal).cursor = (p.outcome R limit goal).cursor := by
  obtain ⟨q, hsteps, hends⟩ := @exists_steps_ends _ R limit goal p
  rw [queried_of_steps hsteps, Resolver.answers_append, Resolver.answers_append] at ha
  obtain ⟨hnames, hlast⟩ := List.append_inj ha
    (by rw [Resolver.length_answers, Resolver.length_answers])
  rw [← state_readAll, ← state_readAll, ← log_of_steps hsteps] at hlast
  have hsteps' := steps_congr R' log' hsteps hnames
  -- the last query, if there is one, is that of the next token
  have hanswer : ∀ t ts, q.rest = t :: ts →
      (p.outcome R limit goal).cursor = q.cursor + 1 → t.kind = .variable →
      (R'.resolve (log'.readAll R' (between p q)).state t.text).answer =
        (R.resolve q.log.state t.text).answer := by
    intro t ts ht hc hk
    rcases queried_of_ends hends with ⟨hsame, -⟩ | ⟨u, us, hu, -, hone⟩
    · omega
    · cases ht.symm.trans hu
      rw [hone, variableNames_of_variable hk] at hlast
      exact (List.cons.inj hlast).1
  obtain ⟨o', hends', hresult, hcursor⟩ := ends_congr R' _ hends hanswer
  rw [outcome_eq_of_steps hsteps', outcome_eq_of_ends hends']
  exact ⟨hresult, hcursor⟩

/-- The same names are queried then. -/
theorem queried_congr (R' : Resolver τ) (log' : Transcript τ)
    (ha : R'.answers log'.state (p.queried R limit goal) =
      R.answers p.log.state (p.queried R limit goal)) :
    (p.withLog log').queried R' limit goal = p.queried R limit goal := by
  unfold queried
  rw [(outcome_congr R' log' ha).2]
  rfl

end Progress

/-! ### Whole evaluations -/

section Evaluate

variable (R : Resolver σ) (limit : Nat) (state : σ) (tokens : List Token)

theorem queries_evaluate :
    (evaluate R limit state tokens).log.queries.toList =
      variableNames (tokens.take (evaluate R limit state tokens).cursor) := by
  cases hend : isTerminated tokens with
  | false =>
    unfold evaluate
    rw [hend]
    rfl
  | true =>
    rw [Progress.evaluate_of_isTerminated state hend, queries_reported, cursor_reported,
      Progress.queries_outcome]
    rfl

/-- The names that an evaluation queries are those that it queries from its start on. -/
theorem queries_evaluate_eq_queried (hend : isTerminated tokens = true) :
    (evaluate R limit state tokens).log.queries.toList =
      (Progress.start state tokens).queried R limit .whole := by
  rw [Progress.evaluate_of_isTerminated state hend, queries_reported, Progress.queries_outcome]
  rfl

/-- Of the queries of an evaluation only the last one may fail. -/
theorem answersButLast_evaluate :
    R.AnswersButLast state (evaluate R limit state tokens).log.queries.toList := by
  cases hend : isTerminated tokens with
  | false =>
    unfold evaluate
    rw [hend]
    exact ⟨[], [], rfl, Nat.zero_le 1, fun _ h => by cases h⟩
  | true =>
    rw [queries_evaluate_eq_queried R limit state tokens hend]
    exact Progress.answersButLast_queried (.start state tokens)

/-- Nothing but the queries changes the state of the resolver. -/
theorem state_evaluate :
    (evaluate R limit state tokens).log.state =
      R.after state (evaluate R limit state tokens).log.queries.toList := by
  cases hend : isTerminated tokens with
  | false =>
    unfold evaluate
    rw [hend]
    rfl
  | true =>
    rw [Progress.evaluate_of_isTerminated state hend, state_reported, queries_reported,
      Progress.state_outcome, Progress.queries_outcome]
    rfl

variable {R limit state tokens}

theorem result_evaluate_of_getElem?_exchanges {k : Nat} {e : Exchange σ} {f : Failure}
    (he : (R.exchanges state (evaluate R limit state tokens).log.queries.toList)[k]? = some e)
    (hf : e.failure? = some f) :
    (evaluate R limit state tokens).log.queries.size = k + 1 ∧
      (∀ d ∈ (R.exchanges state (evaluate R limit state tokens).log.queries.toList).take k,
        d.failure? = none) ∧
      ∃ t, (tokens.filter fun t => t.kind = .variable)[k]? = some t ∧ t.text = e.name ∧
        (evaluate R limit state tokens).result =
          .error (evaluationFailure (queryFailure t f)) := by
  cases hend : isTerminated tokens with
  | false =>
    unfold evaluate at he
    rw [hend] at he
    cases he
  | true =>
    have hqueries := queries_evaluate_eq_queried R limit state tokens hend
    rw [hqueries] at he
    obtain ⟨hlength, hearlier, t, ht, hname, hresult⟩ :=
      Progress.result_of_getElem?_exchanges (p := .start state tokens) he hf
    rw [← Array.length_toList, hqueries]
    refine ⟨hlength, hearlier, t, ht, hname, ?_⟩
    rw [Progress.evaluate_of_isTerminated state hend, result_reported, hresult]
    rfl

theorem result_evaluate_of_mem_exchanges {e : Exchange σ} {f : Failure}
    (he : e ∈ R.exchanges state (evaluate R limit state tokens).log.queries.toList)
    (hf : e.reply.answer = .error f) :
    ∃ t, t.text = e.name ∧
      (evaluate R limit state tokens).result = .error (evaluationFailure (queryFailure t f)) := by
  obtain ⟨k, hk⟩ := List.getElem?_of_mem he
  obtain ⟨-, -, t, -, hname, hresult⟩ :=
    result_evaluate_of_getElem?_exchanges hk (Exchange.failure?_of_error hf)
  exact ⟨t, hname, hresult⟩

/-- A resolver that gives the same answers to the queries of an evaluation leads to the same result,
at the same cursor and with the same queries. -/
theorem evaluate_congr (R' : Resolver τ) (state' : τ)
    (ha : R'.answers state' (evaluate R limit state tokens).log.queries.toList =
      R.answers state (evaluate R limit state tokens).log.queries.toList) :
    (evaluate R' limit state' tokens).result = (evaluate R limit state tokens).result ∧
      (evaluate R' limit state' tokens).cursor = (evaluate R limit state tokens).cursor ∧
      (evaluate R' limit state' tokens).log.queries =
        (evaluate R limit state tokens).log.queries := by
  cases hend : isTerminated tokens with
  | false =>
    unfold evaluate
    rw [hend]
    exact ⟨rfl, rfl, rfl⟩
  | true =>
    have hqueries := queries_evaluate_eq_queried R limit state tokens hend
    rw [hqueries] at ha
    obtain ⟨hresult, hcursor⟩ := Progress.outcome_congr R' { state := state' } ha
    refine ⟨?_, ?_, Array.toList_inj.mp ?_⟩
    · rw [Progress.evaluate_of_isTerminated state hend,
        Progress.evaluate_of_isTerminated state' hend, result_reported, result_reported, ← hresult]
      rfl
    · rw [Progress.evaluate_of_isTerminated state hend,
        Progress.evaluate_of_isTerminated state' hend, cursor_reported, cursor_reported, ← hcursor]
      rfl
    · rw [hqueries, ← Progress.queried_congr R' { state := state' } ha,
        queries_evaluate_eq_queried R' limit state' tokens hend]
      rfl

end Evaluate

end Calculator.Evaluation
