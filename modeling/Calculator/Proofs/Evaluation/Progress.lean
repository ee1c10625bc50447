import Calculator.Proofs.Evaluation.Action
import Mathlib.Logic.Relation

/-!
# Evaluations under way

`Progress` is an evaluation between two tokens.  It goes on by steps (`Progress.Step`), each of
which reads one token, until it ends (`Progress.Ends`).  Every evaluation goes on to an end, and
that end is the outcome of `run` (`exists_steps_ends`); the outcome is the same wherever on the way
one looks (`outcome_eq_of_steps`).  A property that every step preserves therefore holds at the
end.
-/

namespace Calculator.Evaluation

variable {σ : Type}

/-- An evaluation between two tokens: what has been read, the index of the next token, what is left
behind so far, and the tokens still to be read. -/
structure Progress (σ : Type) where
  state : State
  cursor : Nat
  log : Transcript σ
  rest : List Token

namespace Progress

variable {R : Resolver σ} {limit : Nat} {goal : Goal}

/-- How the evaluation will end. -/
def outcome (R : Resolver σ) (limit : Nat) (goal : Goal) (p : Progress σ) : Outcome σ :=
  run R limit goal p.state p.cursor p.log p.rest

/-- One token is read. -/
inductive Step (R : Resolver σ) (limit : Nat) (goal : Goal) : Progress σ → Progress σ → Prop
  | read {s cursor log t ts next} (h : s.Reads limit goal t next) :
      Step R limit goal ⟨s, cursor, log, t :: ts⟩ ⟨next, cursor + 1, log, ts⟩
  | answer {pending frames cursor log t ts x y} (h : t.kind = .variable)
      (hx : (log.query R t).1 = .ok x) (hy : pending.term x = .ok y) :
      Step R limit goal ⟨⟨.operand, pending, frames⟩, cursor, log, t :: ts⟩
        ⟨⟨.value y, { pending with product := none }, frames⟩, cursor + 1, (log.query R t).2, ts⟩

/-- Any number of tokens are read. -/
abbrev Steps (R : Resolver σ) (limit : Nat) (goal : Goal) : Progress σ → Progress σ → Prop :=
  Relation.ReflTransGen (Step R limit goal)

/-- The ways in which an evaluation ends. -/
inductive Ends (R : Resolver σ) (limit : Nat) (goal : Goal) : Progress σ → Outcome σ → Prop
  /-- There are no more tokens. -/
  | exhausted {s cursor log} :
      Ends R limit goal ⟨s, cursor, log, []⟩ ⟨s.atEnd goal, cursor, log⟩
  /-- A variable has no value. -/
  | unanswered {pending frames cursor log t ts e} (h : t.kind = .variable)
      (he : (log.query R t).1 = .error e) :
      Ends R limit goal ⟨⟨.operand, pending, frames⟩, cursor, log, t :: ts⟩
        ⟨.error e, cursor + 1, (log.query R t).2⟩
  /-- The value of a variable does not go with the factors before it. -/
  | unfit {pending frames cursor log t ts x e} (h : t.kind = .variable)
      (hx : (log.query R t).1 = .ok x) (he : pending.term x = .error e) :
      Ends R limit goal ⟨⟨.operand, pending, frames⟩, cursor, log, t :: ts⟩
        ⟨.error e, cursor + 1, (log.query R t).2⟩
  | fail {s cursor log t ts e} (h : s.Fails limit t e) :
      Ends R limit goal ⟨s, cursor, log, t :: ts⟩ ⟨.error e, cursor + 1, log⟩
  | refuse {s cursor log t ts breach} (h : s.Refuses goal t breach) :
      Ends R limit goal ⟨s, cursor, log, t :: ts⟩ ⟨.error (breachAt t breach), cursor, log⟩
  | stop {x pending cursor log t ts} (hp : goal.productOp? t = none) (hs : goal.sumOp? t = none)
      (hw : goal = .whole → t.kind = .eof) :
      Ends R limit goal ⟨⟨.value x, pending, []⟩, cursor, log, t :: ts⟩
        ⟨.ok (pending.expression x), cursor, log⟩

/-! ### Steps and outcomes -/

theorem run_of_ask {s : State} {cursor : Nat} {log : Transcript σ} {t : Token} {ts : List Token}
    (h : s.on limit goal t = .ask) :
    run R limit goal s cursor log (t :: ts) =
      match (log.query R t).1.bind s.factor with
      | .ok next => run R limit goal next (cursor + 1) (log.query R t).2 ts
      | .error e => ⟨.error e, cursor + 1, (log.query R t).2⟩ := by
  cases hnext : (log.query R t).1.bind s.factor with
  | ok next => simp only [run, h, hnext]
  | error e => simp only [run, h, hnext]

theorem outcome_eq_of_step {p q : Progress σ} (h : Step R limit goal p q) :
    p.outcome R limit goal = q.outcome R limit goal := by
  unfold outcome
  cases h with
  | read h => rw [run, State.on_eq_read_iff.mpr h]
  | @answer pending frames _ _ _ _ x y h hx hy =>
    have hf : State.factor ⟨.operand, pending, frames⟩ x = .ok _ :=
      State.factor_eq_ok.mpr ⟨y, hy, rfl⟩
    rw [run_of_ask (State.on_eq_ask_iff.mpr ⟨rfl, h⟩), hx]
    simp only [Except.bind, hf]

theorem outcome_eq_of_steps {p q : Progress σ} (h : Steps R limit goal p q) :
    p.outcome R limit goal = q.outcome R limit goal := by
  induction h with
  | refl => rfl
  | tail _ step ih => rw [ih, outcome_eq_of_step step]

theorem outcome_eq_of_ends {p : Progress σ} {o : Outcome σ} (h : Ends R limit goal p o) :
    p.outcome R limit goal = o := by
  unfold outcome
  cases h with
  | exhausted => rw [run]
  | unanswered h he =>
    rw [run_of_ask (State.on_eq_ask_iff.mpr ⟨rfl, h⟩), he]
    rfl
  | @unfit pending frames _ _ _ _ x e h hx he =>
    have hf : State.factor ⟨.operand, pending, frames⟩ x = .error e :=
      State.factor_eq_error.mpr he
    rw [run_of_ask (State.on_eq_ask_iff.mpr ⟨rfl, h⟩), hx]
    simp only [Except.bind, hf]
  | fail h => rw [run, State.on_eq_fail_iff.mpr h]
  | refuse h => rw [run, State.on_eq_refuse_iff.mpr ⟨_, rfl, h⟩]
  | stop hp hs hw =>
    rw [run, State.on_eq_stop_iff.mpr ⟨_, _, rfl, rfl, hp, hs, hw⟩]

/-- A step reads the next token, and no other. -/
theorem rest_of_step {p q : Progress σ} (h : Step R limit goal p q) :
    ∃ t, p.rest = t :: q.rest ∧ q.cursor = p.cursor + 1 := by
  cases h with
  | read h => exact ⟨_, rfl, rfl⟩
  | answer h hx hy => exact ⟨_, rfl, rfl⟩

/-- Between two tokens an evaluation either reads the next one or ends. -/
theorem step_or_ends (p : Progress σ) :
    (∃ q, Step R limit goal p q) ∨ ∃ o, Ends R limit goal p o := by
  obtain ⟨s, cursor, log, rest⟩ := p
  cases rest with
  | nil => exact .inr ⟨_, .exhausted⟩
  | cons t ts =>
    cases h : s.on limit goal t with
    | read next => exact .inl ⟨_, .read (State.on_eq_read_iff.mp h)⟩
    | ask =>
      obtain ⟨hs, hk⟩ := State.on_eq_ask_iff.mp h
      obtain ⟨stage, pending, frames⟩ := s
      subst hs
      cases hx : (log.query R t).1 with
      | error e => exact .inr ⟨_, .unanswered hk hx⟩
      | ok x =>
        cases hy : pending.term x with
        | error e => exact .inr ⟨_, .unfit hk hx hy⟩
        | ok y => exact .inl ⟨_, .answer hk hx hy⟩
    | fail e => exact .inr ⟨_, .fail (State.on_eq_fail_iff.mp h)⟩
    | refuse e =>
      obtain ⟨breach, rfl, hr⟩ := State.on_eq_refuse_iff.mp h
      exact .inr ⟨_, .refuse hr⟩
    | stop x =>
      obtain ⟨y, pending, rfl, rfl, hp, hs, hw⟩ := State.on_eq_stop_iff.mp h
      exact .inr ⟨_, .stop hp hs hw⟩

/-- Every evaluation goes on to an end, which is its outcome. -/
theorem exists_steps_ends (p : Progress σ) :
    ∃ q, Steps R limit goal p q ∧ Ends R limit goal q (p.outcome R limit goal) := by
  -- by the tokens still to be read, as every step reads one
  induction hr : p.rest generalizing p with
  | nil =>
    rcases @step_or_ends _ R limit goal p with ⟨q, hstep⟩ | ⟨o, hends⟩
    · obtain ⟨t, ht, -⟩ := rest_of_step hstep
      rw [hr] at ht
      cases ht
    · exact ⟨p, .refl, (outcome_eq_of_ends hends).symm ▸ hends⟩
  | cons t ts ih =>
    rcases @step_or_ends _ R limit goal p with ⟨q, hstep⟩ | ⟨o, hends⟩
    · obtain ⟨t', ht, -⟩ := rest_of_step hstep
      rw [hr, List.cons.injEq] at ht
      obtain ⟨r, hsteps, hends⟩ := ih q ht.2.symm
      exact ⟨r, .head hstep hsteps, outcome_eq_of_step hstep ▸ hends⟩
    · exact ⟨p, .refl, (outcome_eq_of_ends hends).symm ▸ hends⟩

/-! ### Whole evaluations -/

/-- The evaluation of all tokens, before the first one is read. -/
def start (state : σ) (tokens : List Token) : Progress σ :=
  ⟨{}, 0, { state }, tokens⟩

/-- What is still to be read are the tokens from the cursor on. -/
theorem rest_of_steps {state : σ} {tokens : List Token} {p : Progress σ}
    (h : Steps R limit goal (start state tokens) p) : p.rest = tokens.drop p.cursor := by
  induction h with
  | refl => rfl
  | tail _ step ih =>
    obtain ⟨t, ht, hc⟩ := rest_of_step step
    rw [hc, ← List.drop_drop, ← ih, ht]
    rfl

theorem evaluate_of_isTerminated (state : σ) {tokens : List Token}
    (h : isTerminated tokens = true) :
    evaluate R limit state tokens =
      ((start state tokens).outcome R limit .whole).reported tokens.length := by
  rw [evaluate, h]
  rfl

end Progress

theorem isTerminated_append_atEnd (tokens : List Token) (pos : Nat) :
    isTerminated (tokens ++ [Token.atEnd pos]) = true := by
  simp [isTerminated, Token.atEnd]

/-! ### Reports -/

section Reports

variable (count : Nat) (o : Outcome σ)

@[simp]
theorem result_reported :
    (o.reported count).result = o.result.mapError evaluationFailure := by
  unfold Outcome.reported
  split
  · next h =>
    simp only [h]
    rfl
  · next h =>
    simp only [h]
    rfl

@[simp]
theorem cursor_reported : (o.reported count).cursor = o.cursor := by
  unfold Outcome.reported
  split <;> rfl

@[simp]
theorem queries_reported : (o.reported count).log.queries = o.log.queries := by
  unfold Outcome.reported
  split <;> rfl

@[simp]
theorem state_reported : (o.reported count).log.state = o.log.state := by
  unfold Outcome.reported
  split <;> rfl

/-- A report adds the value to what an evaluation has left behind, and nothing else. -/
theorem events_reported :
    (o.reported count).log.events =
      match o.result with
      | .ok x => o.log.events.push (.evaluated count x)
      | .error _ => o.log.events := by
  unfold Outcome.reported
  cases o.result <;> rfl

end Reports

end Calculator.Evaluation
