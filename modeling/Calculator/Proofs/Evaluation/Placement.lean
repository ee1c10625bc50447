import Calculator.Proofs.Calculation.Failures
import Calculator.Proofs.Evaluation.Positions

/-!
# Where errors are placed

An error of an evaluation is placed at one of the tokens and is about that token (`Causes`), or it
has no place because it is about values or about the expression as a whole, or it is an error that
the resolver has answered with (`placed_of_evaluate`).  Most errors are placed at the next token;
the one about an unknown function is placed at its name, which has been read before and has been
kept since then (`Progress.functions_of_steps`).
-/

namespace Calculator.Evaluation

/-- The causes of the errors that are placed at a token. -/
inductive Causes (t : Token) : Error.Cause → Prop
  | malformedNumber : Causes t (.malformedNumber t.text)
  | unexpectedToken : Causes t (.malformedExpression (.unexpectedToken t.text))
  | noArgument : Causes t (.malformedExpression .noArgument)
  | unclosed {opener : Opener} : Causes t (.malformedExpression opener.breach)
  | unknownFunction : Causes t (.unknownFunction t.text)
  | failed {reason : String} : Causes t (.unresolvedVariable t.text (.failed reason))

/-- What an evaluation of tokens may fail with, if the errors in `own` are the resolver's own. -/
inductive Placed (tokens : List Token) (own : Error → Prop) : Failure → Prop
  | token {t : Token} {cause : Error.Cause} (mem : t ∈ tokens) (h : Causes t cause) :
      Placed tokens own (.error { cause, pos := some t.pos })
  | divisionByZero : Placed tokens own (.error { cause := .divisionByZero })
  | nestingTooDeep : Placed tokens own (.error { cause := .nestingTooDeep })
  | own {e : Error} (h : own e) : Placed tokens own (.error e)
  | fault {f : Fault} : Placed tokens own (.fault f)

variable {tokens : List Token} {own own' : Error → Prop} {f : Failure} {t : Token}

theorem Placed.mono (h : Placed tokens own f) (hown : ∀ e, own e → own' e) :
    Placed tokens own' f := by
  cases h with
  | token mem h => exact .token mem h
  | divisionByZero => exact .divisionByZero
  | nestingTooDeep => exact .nestingTooDeep
  | own h => exact .own (hown _ h)
  | fault => exact .fault

/-! ### One token -/

theorem placed_evaluationFailure (h : Placed tokens own f) :
    Placed tokens own (evaluationFailure f) := by
  cases f with
  | error e => exact h
  | fault f =>
    unfold evaluationFailure
    dsimp only
    split
    · exact .nestingTooDeep
    · exact .fault

theorem placed_of_term {pending : Pending} {x : Float} (h : pending.term x = .error f) :
    Placed tokens own f :=
  State.term_eq_error h ▸ .divisionByZero

/-- Queries fail as the resolver does, and otherwise at the variable. -/
theorem placed_queryFailure (ht : t ∈ tokens) (f : Failure) :
    Placed tokens (fun e => f = .error e) (queryFailure t f) := by
  cases f with
  | error e => exact .own rfl
  | fault f =>
    unfold queryFailure
    dsimp only
    split
    · exact .token ht .failed
    · exact .fault

theorem placed_of_query {σ : Type} {R : Resolver σ} {log : Transcript σ} (ht : t ∈ tokens)
    (h : (log.query R t).1 = .error f) :
    Placed tokens (fun e => (R.resolve log.state t.text).answer = .error (.error e)) f := by
  rw [fst_query, answerValue_eq_error] at h
  rcases h with ⟨f, hf, rfl⟩ | ⟨value, fault, -, -, rfl⟩
  · refine (placed_queryFailure ht f).mono ?_
    rintro e rfl
    exact hf
  · refine (placed_queryFailure ht (.fault fault)).mono ?_
    rintro e ⟨⟩

theorem placed_of_fails {limit : Nat} {s : State} (ht : t ∈ tokens)
    (hfunctions : ∀ g ∈ s.functions, g ∈ tokens) (h : s.Fails limit t f) : Placed tokens own f := by
  cases h with
  | number hk hx =>
    rw [State.numberValue_eq_error hx]
    exact .token ht .malformedNumber
  | factor hk hx hy => exact placed_of_term hy
  | group hk full | call hk full => exact .fault
  | apply hk hy =>
    obtain ⟨function, rfl, ⟨-, rfl⟩ | ⟨-, -, rfl⟩⟩ := State.apply_eq_error hy
    · exact .token (hfunctions function (List.mem_cons_self ..)) .unknownFunction
    · exact .fault
  | close hk hy hz => exact placed_of_term hz

theorem placed_of_refuses {goal : Goal} {s : State} {breach : Error.Breach} (ht : t ∈ tokens)
    (h : s.Refuses goal t breach) : Placed tokens own (breachAt t breach) := by
  cases h with
  | operand | trailing => exact .token ht .unexpectedToken
  | argument => exact .token ht .noArgument
  | unclosed => exact .token ht .unclosed

/-! ### Whole evaluations -/

section Evaluate

variable {σ : Type} {R : Resolver σ} {limit : Nat} {goal : Goal}

theorem Progress.placed_of_ends {p : Progress σ} {o : Outcome σ} (hrest : ∀ t ∈ p.rest, t ∈ tokens)
    (hfunctions : ∀ g ∈ p.state.functions, g ∈ tokens) (h : Ends R limit goal p o)
    (hf : o.result = .error f) :
    Placed tokens (R.AnswersWith p.log.state (p.queried R limit goal)) f := by
  cases h with
  | exhausted =>
    dsimp only at hf
    unfold State.atEnd at hf
    split at hf
    · cases hf
    · cases hf
      exact .fault
  | @unanswered _ _ _ log t _ _ hk he =>
    cases hf
    refine (placed_of_query (hrest t (List.mem_cons_self ..)) he).mono fun e hown => ?_
    -- the answer to the only query that is left
    refine ⟨⟨log.state, t.text, R.resolve log.state t.text⟩, ?_, hown⟩
    rw [queried_of_unanswered hk he]
    exact List.mem_singleton_self _
  | unfit hk hx he =>
    cases hf
    exact placed_of_term he
  | fail h =>
    cases hf
    exact placed_of_fails (hrest _ (List.mem_cons_self ..)) hfunctions h
  | refuse h =>
    cases hf
    exact placed_of_refuses (hrest _ (List.mem_cons_self ..)) h
  | stop => cases hf

/-- **Errors are placed at the tokens that they are about**; those without a place are about values,
about the depth of the expression, or the resolver's own. -/
theorem placed_of_evaluate {state : σ} (hf : (evaluate R limit state tokens).result = .error f) :
    Placed tokens (R.AnswersWith state (evaluate R limit state tokens).log.queries.toList) f := by
  cases hend : isTerminated tokens with
  | false =>
    unfold evaluate at hf
    rw [hend] at hf
    cases hf
    exact .fault
  | true =>
    rw [Progress.evaluate_of_isTerminated state hend] at hf ⊢
    rw [queries_reported, Progress.queries_outcome]
    rw [result_reported] at hf
    obtain ⟨f', hf', rfl⟩ := mapError_eq_error.mp hf
    obtain ⟨p, hsteps, hends⟩ := @Progress.exists_steps_ends _ R limit .whole
      (Progress.start state tokens)
    have hrest : ∀ t ∈ p.rest, t ∈ tokens := by
      intro t ht
      rw [Progress.rest_of_steps hsteps] at ht
      exact List.mem_of_mem_drop ht
    exact placed_evaluationFailure ((Progress.placed_of_ends hrest
      (fun g hg => (Progress.functions_of_steps hsteps g hg).1) hends hf').mono
        fun _ => Progress.answersWith_of_steps hsteps)

end Evaluate

end Calculator.Evaluation
