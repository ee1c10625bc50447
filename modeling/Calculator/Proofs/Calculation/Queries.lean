import Calculator.Proofs.Calculation.Failures
import Calculator.Proofs.Evaluation.Replay

/-!
# The queries of a calculation

What holds of the queries of an evaluation holds of those of a text: nothing else is asked of the
resolver (`state_calculateWithin`), a query that fails is the failure of the calculation
(`result_calculateWithin_of_mem_exchanges`), and another resolver with the same answers leads to the
same result (`calculateWithin_congr`).
-/

namespace Calculator

open Evaluation

variable {σ τ : Type} {R : Resolver σ} {limit : Nat} {state : σ} {source : String}

theorem log_calculateWithin {tokens : List Token} (h : Token.ofText source = .ok tokens) :
    (calculateWithin R limit state source).log = (evaluate R limit state tokens).log := by
  rw [calculateWithin, h]

theorem cursor_calculateWithin {tokens : List Token} (h : Token.ofText source = .ok tokens) :
    (calculateWithin R limit state source).cursor = (evaluate R limit state tokens).cursor := by
  rw [calculateWithin, h]

theorem state_calculateWithin (R : Resolver σ) (limit : Nat) (state : σ) (source : String) :
    (calculateWithin R limit state source).log.state =
      R.after state (calculateWithin R limit state source).log.queries.toList := by
  cases hlex : Token.ofText source with
  | error e =>
    rw [calculateWithin, hlex]
    rfl
  | ok tokens =>
    rw [log_calculateWithin hlex]
    exact state_evaluate R limit state tokens

/-- Of the queries of a calculation only the last one may fail. -/
theorem answersButLast_calculateWithin (R : Resolver σ) (limit : Nat) (state : σ)
    (source : String) :
    R.AnswersButLast state (calculateWithin R limit state source).log.queries.toList := by
  cases hlex : Token.ofText source with
  | error e =>
    rw [calculateWithin, hlex]
    exact ⟨[], [], rfl, Nat.zero_le 1, fun _ h => by cases h⟩
  | ok tokens =>
    rw [log_calculateWithin hlex]
    exact answersButLast_evaluate R limit state tokens

/-- The failure of a calculation in which a query fails: errors without a position stay as they
are. -/
theorem result_calculateWithin_of_mem_exchanges {e : Exchange σ} {f : Failure}
    (he : e ∈ R.exchanges state (calculateWithin R limit state source).log.queries.toList)
    (hf : e.reply.answer = .error f) :
    ∃ t, t.text = e.name ∧ (calculateWithin R limit state source).result =
      .error ((evaluationFailure (queryFailure t f)).attachSource source) := by
  cases hlex : Token.ofText source with
  | error e' =>
    rw [calculateWithin, hlex] at he
    cases he
  | ok tokens =>
    rw [log_calculateWithin hlex] at he
    obtain ⟨t, ht, hresult⟩ := result_evaluate_of_mem_exchanges he hf
    rw [result_calculateWithin hlex, hresult]
    exact ⟨t, ht, rfl⟩

theorem calculateWithin_congr (R' : Resolver τ) (state' : τ)
    (ha : R'.answers state' (calculateWithin R limit state source).log.queries.toList =
      R.answers state (calculateWithin R limit state source).log.queries.toList) :
    (calculateWithin R' limit state' source).result =
        (calculateWithin R limit state source).result ∧
      (calculateWithin R' limit state' source).cursor =
        (calculateWithin R limit state source).cursor ∧
      (calculateWithin R' limit state' source).log.queries =
        (calculateWithin R limit state source).log.queries := by
  cases hlex : Token.ofText source with
  | error e =>
    rw [calculateWithin, calculateWithin, hlex]
    exact ⟨rfl, rfl, rfl⟩
  | ok tokens =>
    rw [log_calculateWithin hlex] at ha
    obtain ⟨hresult, hcursor, hqueries⟩ := evaluate_congr R' state' ha
    rw [result_calculateWithin hlex, result_calculateWithin hlex, cursor_calculateWithin hlex,
      cursor_calculateWithin hlex, log_calculateWithin hlex, log_calculateWithin hlex, hresult,
      hcursor, hqueries]
    exact ⟨rfl, rfl, rfl⟩

end Calculator
