import Calculator.Proofs.Calculation.Failures
import Calculator.Proofs.Evaluation.Replay

/-!
# Faults of a calculation

If a resolver answers with floats and errors only, there is no fault but the one of an infinite
angle, and it is met exactly where a function is applied to one
(`result_calculateWithin_eq_fault_iff`).
-/

namespace Calculator

variable {σ : Type}

/-- Whether a resolver, as long as it is in one of the given states, answers with floats and errors
only, and stays in these states. -/
structure Resolver.IsPlain (R : Resolver σ) (states : σ → Prop) : Prop where
  answer : ∀ state name, states state →
    (∃ x, (R.resolve state name).answer = .ok (.float x)) ∨
      ∃ e, (R.resolve state name).answer = .error (.error e)
  stays : ∀ state name, states state → states (R.resolve state name).state

theorem Resolver.IsPlain.after {R : Resolver σ} {states : σ → Prop} {state : σ}
    (h : R.IsPlain states) (hstate : states state) (names : List String) :
    states (R.after state names) := by
  induction names generalizing state with
  | nil => exact hstate
  | cons name names ih => exact ih (h.stays state name hstate)

namespace Evaluation

variable {R : Resolver σ} {states : σ → Prop} {limit : Nat} {state : σ} {tokens : List Token}
  {fault : Fault}

/-- Queries of a plain resolver do not end in a fault. -/
theorem evaluationFailure_of_query {log : Transcript σ} {t : Token} {f : Failure}
    (hplain : R.IsPlain states) (hstate : states log.state) (h : (log.query R t).1 = .error f) :
    ∃ e, evaluationFailure f = .error e := by
  rw [fst_query, answerValue_eq_error] at h
  -- a float is a value as it is, so only an error of the resolver can be passed on
  rcases hplain.answer log.state t.text hstate with ⟨x, hx⟩ | ⟨e, he⟩
  · rcases h with ⟨f', hf, -⟩ | ⟨value, fault, hvalue, hfloat, -⟩
    · rw [hx] at hf
      cases hf
    · rw [hx] at hvalue
      cases hvalue
      cases hfloat
  · rcases h with ⟨f', hf, rfl⟩ | ⟨value, fault, hvalue, -, -⟩
    · rw [he] at hf
      cases hf
      exact ⟨e, rfl⟩
    · rw [he] at hvalue
      cases hvalue

/-- Where an evaluation with a plain resolver ends with a fault, a function is applied to an
infinite angle. -/
theorem application_of_ends {p : Progress σ} {o : Outcome σ} {f : Failure}
    (hplain : R.IsPlain states) (hstate : states p.log.state)
    (hnamed : ∀ g ∈ p.state.functions, (Trig.ofName? g.text).isSome = true) (hrest : p.rest ≠ [])
    (h : Progress.Ends R limit .whole p o) (hf : o.result = .error f)
    (hfault : evaluationFailure f = .fault fault) :
    fault = .infiniteAngle ∧ ∃ t ts g angle, p.rest = t :: ts ∧
      p.state.application? t = some (g, angle) ∧ angle.isInf = true := by
  cases h with
  | exhausted => exact absurd rfl hrest
  | unanswered hk he =>
    cases hf
    obtain ⟨e, herror⟩ := evaluationFailure_of_query hplain hstate he
    rw [herror] at hfault
    cases hfault
  | unfit hk hx he =>
    cases hf
    rw [State.term_eq_error he] at hfault
    cases hfault
  | fail hfails =>
    cases hf
    -- what accounts for an error is of no interest here, so any table and any tokens will do
    rcases @accounted_of_fails _ _ _ _ .empty [] hnamed hfails with
      ⟨e, herror, -⟩ | ⟨rfl, g, angle, h⟩
    · rw [herror] at hfault
      cases hfault
    · cases hfault
      exact ⟨rfl, _, _, g, angle, rfl, h⟩
  | refuse =>
    cases hf
    cases hfault
  | stop => cases hf

theorem result_evaluate_eq_fault_iff (hplain : R.IsPlain states) (hstate : states state)
    (hend : isTerminated tokens = true)
    (hnamed : ∀ t ∈ tokens, t.kind = .function → (Trig.ofName? t.text).isSome = true) :
    (evaluate R limit state tokens).result = .error (.fault fault) ↔
      fault = .infiniteAngle ∧
        ∃ g angle, Applies R limit state tokens g angle ∧ angle.isInf = true := by
  rw [Progress.evaluate_of_isTerminated state hend, result_reported]
  constructor
  · intro h
    obtain ⟨f, hf, hfault⟩ := mapError_eq_error.mp h
    obtain ⟨p, hsteps, hends⟩ := @Progress.exists_steps_ends _ R limit .whole
      (Progress.start state tokens)
    have hlog : states p.log.state := by
      rw [← Progress.after_between hsteps]
      exact hplain.after hstate _
    have hfunctions : ∀ g ∈ p.state.functions, (Trig.ofName? g.text).isSome = true := by
      intro g hg
      obtain ⟨hmem, hk⟩ := Progress.functions_of_steps hsteps g hg
      exact hnamed g hmem hk
    obtain ⟨rfl, t, ts, g, angle, ht, happ, hinf⟩ := application_of_ends hplain hlog hfunctions
      (Progress.rest_ne_nil_of_steps hend hsteps) hends hf hfault
    exact ⟨rfl, g, angle, ⟨p, t, ts, hsteps, ht, happ⟩, hinf⟩
  · rintro ⟨rfl, g, angle, happ, hinf⟩
    rw [result_of_applies happ hinf]
    rfl

end Evaluation

open Evaluation

/-- **Only an infinite angle is a fault** if the resolver is plain. -/
theorem result_calculateWithin_eq_fault_iff {R : Resolver σ} {states : σ → Prop} {limit : Nat}
    {state : σ} {source : String} {fault : Fault} (hplain : R.IsPlain states)
    (hstate : states state) :
    (calculateWithin R limit state source).result = .error (.fault fault) ↔
      fault = .infiniteAngle ∧ ∃ tokens g angle, Token.ofText source = .ok tokens ∧
        Applies R limit state tokens g angle ∧ angle.isInf = true := by
  cases hlex : Token.ofText source with
  | error e =>
    rw [calculateWithin, hlex]
    constructor
    · intro h
      cases h
    · rintro ⟨-, tokens, g, angle, h, -⟩
      cases h
  | ok tokens =>
    rw [result_calculateWithin hlex, mapError_attachSource_eq_fault,
      result_evaluate_eq_fault_iff hplain hstate (isTerminated_of_ofText hlex)
        fun t => Token.isSome_ofName?_of_mem hlex]
    constructor
    · rintro ⟨rfl, g, angle, h⟩
      exact ⟨rfl, tokens, g, angle, rfl, h⟩
    · rintro ⟨rfl, _, g, angle, ⟨⟩, h⟩
      exact ⟨rfl, g, angle, h⟩

end Calculator
