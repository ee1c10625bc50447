import Calculator.Resolver

/-!
# Exchanges with a resolver

The queries of names one after the other, each with the state in which it finds the resolver and
with the reply.
-/

namespace Calculator

/-- One query of a resolver. -/
structure Exchange (σ : Type) where
  /-- The state in which the query finds the resolver. -/
  before : σ
  name : String
  reply : Reply σ

/-- The failure of a query that gives no number: that of the resolver, or that of the conversion of
its answer. -/
def Exchange.failure? {σ : Type} (e : Exchange σ) : Option Failure :=
  match e.reply.answer with
  | .error f => some f
  | .ok value =>
    match value.toFloat with
    | .error fault => some (.fault fault)
    | .ok _ => none

section Failure

variable {σ : Type} {e : Exchange σ} {value : Value}

theorem Exchange.failure?_of_error {f : Failure} (ha : e.reply.answer = .error f) :
    e.failure? = some f := by
  rw [failure?, ha]

theorem Exchange.failure?_of_toFloat {fault : Fault} (ha : e.reply.answer = .ok value)
    (hv : value.toFloat = .error fault) : e.failure? = some (.fault fault) := by
  simp only [failure?, ha, hv]

theorem Exchange.failure?_eq_none :
    e.failure? = none ↔ ∃ value, e.reply.answer = .ok value ∧ ∃ x, value.toFloat = .ok x := by
  unfold failure?
  split
  · next h => simp [h]
  · next h => split <;> simp_all

end Failure

namespace Resolver

variable {σ : Type} (R : Resolver σ)

/-- The queries of names, of which the first one finds the resolver in the given state. -/
def exchanges (state : σ) : List String → List (Exchange σ)
  | [] => []
  | name :: names =>
    ⟨state, name, R.resolve state name⟩ :: exchanges (R.resolve state name).state names

/-- The state of the resolver behind the queries of names. -/
def after (state : σ) : List String → σ
  | [] => state
  | name :: names => after (R.resolve state name).state names

/-- The answers to the queries of names. -/
def answers (state : σ) (names : List String) : List (Except Failure Value) :=
  (R.exchanges state names).map fun e => e.reply.answer

/-- Whether all of the queries of names are answered, except perhaps the last one. -/
def AnswersButLast (state : σ) (names : List String) : Prop :=
  ∃ earlier last, names = earlier ++ last ∧ last.length ≤ 1 ∧
    ∀ answer ∈ R.answers state earlier, ∃ value, answer = .ok value

theorem after_append (state : σ) (names others : List String) :
    R.after state (names ++ others) = R.after (R.after state names) others := by
  induction names generalizing state with
  | nil => rfl
  | cons name names ih => exact ih _

theorem exchanges_append (state : σ) (names others : List String) :
    R.exchanges state (names ++ others) =
      R.exchanges state names ++ R.exchanges (R.after state names) others := by
  induction names generalizing state with
  | nil => rfl
  | cons name names ih => exact congrArg _ (ih _)

theorem answers_append (state : σ) (names others : List String) :
    R.answers state (names ++ others) =
      R.answers state names ++ R.answers (R.after state names) others := by
  unfold answers
  rw [exchanges_append, List.map_append]

theorem map_name_exchanges (state : σ) (names : List String) :
    (R.exchanges state names).map Exchange.name = names := by
  induction names generalizing state with
  | nil => rfl
  | cons name names ih => exact congrArg _ (ih _)

theorem length_exchanges (state : σ) (names : List String) :
    (R.exchanges state names).length = names.length := by
  rw [← List.length_map Exchange.name, map_name_exchanges]

theorem length_answers (state : σ) (names : List String) :
    (R.answers state names).length = names.length := by
  unfold answers
  rw [List.length_map, length_exchanges]

/-- A query in the middle finds the resolver as the queries before it have left it, and the queries
behind it find it as this one leaves it. -/
theorem of_exchanges_eq {state : σ} {names : List String} {earlier later : List (Exchange σ)}
    {e : Exchange σ} (h : R.exchanges state names = earlier ++ e :: later) :
    e.before = R.after state (earlier.map Exchange.name) ∧ e.reply = R.resolve e.before e.name ∧
      later = R.exchanges e.reply.state (later.map Exchange.name) ∧
      R.after state names = R.after e.reply.state (later.map Exchange.name) := by
  induction names generalizing state earlier with
  | nil => cases earlier <;> cases h
  | cons name names ih =>
    cases earlier with
    | nil =>
      obtain ⟨rfl, rfl⟩ := List.cons.inj h
      rw [map_name_exchanges]
      exact ⟨rfl, rfl, rfl, rfl⟩
    | cons d earlier =>
      obtain ⟨rfl, hrest⟩ := List.cons.inj h
      exact ih hrest

theorem reply_of_mem_exchanges {state : σ} {names : List String} {e : Exchange σ}
    (h : e ∈ R.exchanges state names) : e.reply = R.resolve e.before e.name := by
  obtain ⟨earlier, later, hsplit⟩ := List.append_of_mem h
  exact (of_exchanges_eq R hsplit).2.1

end Resolver

end Calculator
