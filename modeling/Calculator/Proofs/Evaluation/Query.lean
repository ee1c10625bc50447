import Calculator.Proofs.Evaluation.Action

/-!
# Queries

The value of a variable is the number that the resolver's answer stands for (`fst_query`).  It is
missing if the resolver fails or if its answer is no number (`answerValue_eq_error`), and there is
one in all other cases (`answerValue_eq_ok`).  In any case the query leaves behind the new state of
the resolver (`state_query`) and the name (`queries_query`).
-/

namespace Calculator.Evaluation

variable {σ : Type} {R : Resolver σ} {log : Transcript σ} {t : Token}

theorem fst_query :
    (log.query R t).1 = answerValue t (R.resolve log.state t.text).answer := by
  simp only [Transcript.query]
  cases answerValue t (R.resolve log.state t.text).answer <;> rfl

theorem state_query : (log.query R t).2.state = (R.resolve log.state t.text).state := by
  unfold Transcript.query
  dsimp only
  split <;> rfl

theorem queries_query : (log.query R t).2.queries = log.queries.push t.text := by
  unfold Transcript.query
  dsimp only
  split <;> rfl

/-- A table is the same after a query. -/
theorem state_query_table {log : Transcript (Bindings Value)} :
    (log.query Resolver.table t).2.state = log.state := by
  rw [state_query]
  unfold Resolver.table
  dsimp only
  split <;> rfl

theorem answerValue_eq_error {answer : Except Failure Value} {e : Failure} :
    answerValue t answer = .error e ↔
      (∃ f, answer = .error f ∧ e = queryFailure t f) ∨
      (∃ value fault, answer = .ok value ∧ value.toFloat = .error fault ∧
        e = queryFailure t (.fault fault)) := by
  unfold answerValue
  rw [mapError_eq_error]
  constructor
  · rintro ⟨f, h, rfl⟩
    rcases bind_eq_error.mp h with ha | ⟨value, ha, hv⟩
    · exact .inl ⟨f, ha, rfl⟩
    · obtain ⟨fault, hx, rfl⟩ := mapError_eq_error.mp hv
      exact .inr ⟨value, fault, ha, hx, rfl⟩
  · rintro (⟨f, h, rfl⟩ | ⟨value, fault, h, hv, rfl⟩)
    · exact ⟨f, bind_eq_error.mpr (.inl h), rfl⟩
    · have hfault : value.toFloat.mapError Failure.fault = .error (.fault fault) :=
        mapError_eq_error.mpr ⟨fault, hv, rfl⟩
      exact ⟨.fault fault, bind_eq_error.mpr (.inr ⟨value, h, hfault⟩), rfl⟩

theorem answerValue_eq_ok {answer : Except Failure Value} {x : Float} :
    answerValue t answer = .ok x ↔ ∃ value, answer = .ok value ∧ value.toFloat = .ok x := by
  unfold answerValue
  rw [mapError_eq_ok, bind_eq_ok]
  constructor
  · rintro ⟨value, ha, hx⟩
    exact ⟨value, ha, mapError_eq_ok.mp hx⟩
  · rintro ⟨value, ha, hx⟩
    exact ⟨value, ha, mapError_eq_ok.mpr hx⟩

end Calculator.Evaluation
