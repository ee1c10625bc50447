import Calculator.Proofs.Evaluation.Span
import Calculator.Proofs.Grammar.Draft
import Calculator.Resolver.Script

/-!
# Evaluation looks no further than its cursor

An evaluation is decided by the tokens up to the one at which its cursor comes to stand: whatever
follows them may be replaced (`outcome_eq_of_agree`), and only the number of tokens in the report of
the value tells the evaluations apart (`evaluate_eq_of_agree`).
-/

namespace Calculator.Evaluation

variable {σ : Type} {R : Resolver σ} {limit : Nat} {goal : Goal}

namespace Progress

variable {p q : Progress σ} {o : Outcome σ} {t : Token}

/-! ### Other tokens behind the next one -/

theorem step_of_rest (h : Step R limit goal p q) (ht : p.rest = t :: q.rest) (rest : List Token) :
    Step R limit goal { p with rest := t :: rest } { q with rest } := by
  cases h with
  | read h =>
    cases ht
    exact .read h
  | answer h hx hy =>
    cases ht
    exact .answer h hx hy

theorem ends_of_rest {ts : List Token} (h : Ends R limit goal p o) (ht : p.rest = t :: ts)
    (rest : List Token) : Ends R limit goal { p with rest := t :: rest } o := by
  cases h with
  | exhausted => cases ht
  | unanswered h he =>
    cases ht
    exact .unanswered h he
  | unfit h hx he =>
    cases ht
    exact .unfit h hx he
  | fail h =>
    cases ht
    exact .fail h
  | refuse h =>
    cases ht
    exact .refuse h
  | stop hp hs hw =>
    cases ht
    exact .stop hp hs hw

/-- What stands behind a span of tokens makes no difference while the span is read. -/
theorem steps_of_rest (h : Steps R limit goal p q) (rest : List Token) :
    Steps R limit goal { p with rest := between p q ++ rest } { q with rest } := by
  -- for all that may follow, as a token that is read later is at first part of it
  refine between_induction (motive := fun us q => ∀ rest,
    Steps R limit goal { p with rest := us ++ rest } { q with rest }) h (fun _ => .refl) ?_ rest
  intro us q r t _ _ ih hstep ht rest
  rw [List.append_assoc, List.singleton_append]
  exact (ih (t :: rest)).tail (step_of_rest hstep ht rest)

/-- What stands behind the cursor at which an evaluation ends makes no difference. -/
theorem outcome_eq_of_agree {state : σ} {tokens tokens' : List Token}
    (hend : isTerminated tokens = true)
    (h : ∀ i ≤ ((start state tokens).outcome R limit goal).cursor, tokens'[i]? = tokens[i]?) :
    (start state tokens').outcome R limit goal = (start state tokens).outcome R limit goal := by
  obtain ⟨q, hsteps, hends⟩ := @exists_steps_ends _ R limit goal (start state tokens)
  -- the evaluation ends in front of a token, which stands before or at the first end
  obtain ⟨t, ts, ht⟩ := exists_rest_of_steps hend rfl (Nat.zero_le _) hsteps
  -- so both lists begin with what was read and with that token
  have hagree : tokens'.take (q.cursor + 1) = tokens.take (q.cursor + 1) := by
    refine List.ext_getElem? fun i => ?_
    rw [List.getElem?_take, List.getElem?_take]
    split
    · next hi =>
      have hle := cursor_le_of_ends hends
      exact h i (by omega)
    · rfl
  have htake : tokens.take (q.cursor + 1) = between (start state tokens) q ++ [t] := by
    rw [List.take_add_one, getElem?_cursor (rest_of_steps hsteps) ht]
    rfl
  have htokens : tokens' =
      between (start state tokens) q ++ t :: tokens'.drop (q.cursor + 1) := by
    rw [List.append_cons, ← htake, ← hagree, List.take_append_drop]
  have hsteps' : Steps R limit goal (start state tokens')
      { q with rest := t :: tokens'.drop (q.cursor + 1) } := by
    have hspan := steps_of_rest hsteps (t :: tokens'.drop (q.cursor + 1))
    rw [← htokens] at hspan
    exact hspan
  rw [outcome_eq_of_steps hsteps', outcome_eq_of_ends (ends_of_rest hends ht _)]

end Progress

/-! ### Whole evaluations -/

/-- **Evaluation looks no further than its cursor**: its cursor does not go beyond the first end,
and tokens that agree up to the one at the cursor are evaluated with the same result, the same
queries and the same events, but for the number of tokens in the report of a value. -/
theorem evaluate_eq_of_agree (R : Resolver σ) (limit : Nat) (state : σ)
    (tokens tokens' : List Token) (hend : isTerminated tokens = true)
    (hend' : isTerminated tokens' = true)
    (h : ∀ i ≤ (evaluate R limit state tokens).cursor, tokens'[i]? = tokens[i]?) :
    let outcome := evaluate R limit state tokens
    let outcome' := evaluate R limit state tokens'
    outcome.cursor ≤ firstEnd tokens ∧
      outcome'.result = outcome.result ∧ outcome'.cursor = outcome.cursor ∧
      outcome'.log.queries = outcome.log.queries ∧ outcome'.log.state = outcome.log.state ∧
      (∀ e, outcome.result = .error e → outcome'.log.events = outcome.log.events) ∧
      ∀ x, outcome.result = .ok x → ∃ events : Array Event,
        outcome.log.events = events.push (.evaluated tokens.length x) ∧
          outcome'.log.events = events.push (.evaluated tokens'.length x) := by
  intro outcome outcome'
  have hout : outcome = ((Progress.start state tokens).outcome R limit .whole).reported
      tokens.length := Progress.evaluate_of_isTerminated state hend
  have hcursor : outcome.cursor =
      ((Progress.start state tokens).outcome R limit .whole).cursor := by
    rw [hout, cursor_reported]
  have hout' : outcome' = ((Progress.start state tokens).outcome R limit .whole).reported
      tokens'.length := by
    rw [← Progress.outcome_eq_of_agree hend (hcursor ▸ h)]
    exact Progress.evaluate_of_isTerminated state hend'
  refine ⟨?_, ?_, ?_, ?_, ?_, ?_, ?_⟩
  · rw [hcursor]
    exact Progress.cursor_le_firstEnd rfl (Nat.zero_le _)
  · rw [hout, hout', result_reported, result_reported]
  · rw [hout, hout', cursor_reported, cursor_reported]
  · rw [hout, hout', queries_reported, queries_reported]
  · rw [hout, hout', state_reported, state_reported]
  · intro e he
    rw [hout, result_reported] at he
    obtain ⟨e', he', -⟩ := mapError_eq_error.mp he
    rw [hout, hout', events_reported, events_reported, he']
  · intro x hx
    rw [hout, result_reported, mapError_eq_ok] at hx
    refine ⟨((Progress.start state tokens).outcome R limit .whole).log.events, ?_, ?_⟩
    · rw [hout, events_reported, hx]
    · rw [hout', events_reported, hx]

/-- The tokens of `x/y` with an end behind them, then more tokens with an end behind those. -/
def quotientBefore (ts : List Token) : List Token :=
  [Grammar.spelled .variable 'x' 0, Grammar.spelled .operator '/' 1,
    Grammar.spelled .variable 'y' 2, Token.atEnd 3] ++ ts ++ [Token.atEnd 4]

/-- Whether or not a parenthesis is opened behind the first end, the value is that of `x/y`. -/
theorem evaluate_quotientBefore :
    let answers : Script := { steps := [.ok (.float 1.0), .ok (.float 2.0)] }
    let tokens := quotientBefore []
    let tokens' := quotientBefore [Grammar.spelled .lparen '(' 4]
    isTerminated tokens = true ∧ isTerminated tokens' = true ∧
      (∀ i ≤ (evaluate Script.resolver 1 answers tokens).cursor, tokens'[i]? = tokens[i]?) ∧
        (evaluate Script.resolver 1 answers tokens').result.toOption = some 0.5 := by
  intro answers tokens tokens'
  have hcursor : (evaluate Script.resolver 1 answers tokens).cursor = 3 := by decide +kernel
  have hagree : ∀ i ≤ (evaluate Script.resolver 1 answers tokens).cursor,
      tokens'[i]? = tokens[i]? := by
    rw [hcursor]
    decide
  have hsame := evaluate_eq_of_agree Script.resolver 1 answers tokens tokens' rfl rfl hagree
  refine ⟨rfl, rfl, hagree, ?_⟩
  rw [hsame.2.1]
  decide +kernel

end Calculator.Evaluation
