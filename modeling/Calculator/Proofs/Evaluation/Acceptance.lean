import Calculator.Proofs.Evaluation.Progress
import Calculator.Proofs.Evaluation.Query
import Calculator.Proofs.Grammar.Draft
import Mathlib.Data.List.Forall2

/-!
# Evaluation accepts the sentences, and refuses at the first hopeless token

An evaluation under way follows the draft of the tokens it has read (`State.Follows`): each token
that is read extends the draft (`follows_of_step`), and a token that is refused does not fit it
(`not_reads_of_refuses`).  As drafts tell beginnings of sentences from other tokens, an evaluation
has a value only on sentences, and it reports a breach of the grammar at the first token with which
no sentence goes on (`evaluate_exact`).
-/

namespace Calculator.Evaluation

open Grammar

variable {σ : Type} {R : Resolver σ} {limit : Nat} {goal : Goal}

/-! ### Evaluations and drafts -/

/-- A parenthesis that is open in an evaluation, and the same one in a draft. -/
inductive Opener.Opens : Opener → Bracket → Prop
  | group {opening ho} : Opens .group (.group opening ho)
  | call {f opening h ho} : Opens (.call f) (.call f opening h ho)

/-- The same parentheses are open, from the inside out. -/
abbrev SameOpen : List Frame → List Layer → Prop :=
  List.Forall₂ fun frame layer => frame.opener.Opens layer.bracket

namespace State

/-- What has been read, as values and as trees, has the same open parentheses and may go on with the
same tokens. -/
inductive Follows : State → Draft → Prop
  | operand {pending frames held layers} (h : SameOpen frames layers) :
      Follows ⟨.operand, pending, frames⟩ (.operand held layers)
  | argument {f hf pending frames held layers} (h : SameOpen frames layers) :
      Follows ⟨.argument f, pending, frames⟩ (.argument f hf held layers)
  | value {x pending frames sum term layers} (h : SameOpen frames layers) :
      Follows ⟨.value x, pending, frames⟩ (.value sum term layers)

variable {s next : State} {t : Token} {d : Draft}

theorem follows_of_reads (hf : s.Follows d) (h : s.Reads limit goal t next) :
    ∃ d', d.Reads t d' ∧ next.Follows d' := by
  cases h with
  | number h hx hy =>
    cases hf with
    | operand hl => exact ⟨_, .number h, .value hl⟩
  | name h =>
    cases hf with
    | operand hl => exact ⟨_, .name h, .argument hl⟩
  | group h room =>
    cases hf with
    | operand hl => exact ⟨_, .group h, .operand (.cons .group hl)⟩
  | call h room =>
    cases hf with
    | argument hl => exact ⟨_, .call h, .operand (.cons .call hl)⟩
  | product h =>
    cases hf with
    | value hl =>
      exact ⟨_, .product (by simp [Goal.productOp?_eq_some h]), .operand hl⟩
  | sum h =>
    cases hf with
    | value hl => exact ⟨_, .sum (by simp [Goal.sumOp?_eq_some h]), .operand hl⟩
  | close h hy hz =>
    cases hf with
    | value hl =>
      cases hl with
      | cons _ hl => exact ⟨_, .close h, .value hl⟩

/-- A token that is refused does not extend the draft. -/
theorem not_reads_of_refuses {breach : Error.Breach} (hf : s.Follows d)
    (h : s.Refuses goal t breach) (d' : Draft) : ¬ d.Reads t d' := by
  intro hr
  cases h with
  | operand h =>
    cases hf with
    | operand hl => cases hr <;> simp_all
  | argument h =>
    cases hf with
    | argument hl =>
      cases hr with
      | call hk => exact h hk
  | trailing hg h hp hs =>
    cases hf with
    | value hl =>
      cases hl with
      | nil =>
        cases hr with
        | product hk => simp [hp] at hk
        | sum hk => simp [hs] at hk
  | unclosed h hp hs =>
    cases hf with
    | value hl =>
      cases hr with
      | product hk => simp [hp] at hk
      | sum hk => simp [hs] at hk
      | close hk => exact h hk

/-- Where the end is refused, an expression is not complete. -/
theorem ne_value_of_refuses_atEnd {breach : Error.Breach} (hf : s.Follows d)
    (h : s.Refuses goal t breach) (ht : t.kind = .eof) (sum : Option (Expression × SumToken))
    (term : Term) : d ≠ .value sum term [] := by
  rintro rfl
  cases hf with
  | value hl =>
    cases hl with
    | nil =>
      cases h with
      | trailing hg h hp hs => exact h ht

end State

namespace Progress

theorem follows_of_step {p q : Progress σ} {d : Draft} (hf : p.state.Follows d)
    (h : Step R limit goal p q) :
    ∃ t d', p.rest = t :: q.rest ∧ d.Reads t d' ∧ q.state.Follows d' := by
  cases h with
  | read h =>
    obtain ⟨d', hr, hd'⟩ := State.follows_of_reads hf h
    exact ⟨_, d', rfl, hr, hd'⟩
  | answer h hx hy =>
    cases hf with
    | operand hl => exact ⟨_, _, rfl, .query h, .value hl⟩

/-- An evaluation under way follows a draft that has read the tokens before the cursor. -/
theorem follows_of_steps {state : σ} {tokens : List Token} {p : Progress σ}
    (h : Steps R limit goal (start state tokens) p) :
    ∃ d, Draft.ReadsAll .start (tokens.take p.cursor) d ∧ p.state.Follows d := by
  induction h with
  | refl => exact ⟨.start, .nil, .operand .nil⟩
  | @tail p q hsteps step ih =>
    obtain ⟨d, hread, hf⟩ := ih
    -- the token that the step reads is the one at the cursor
    obtain ⟨t, d', ht, hr, hf'⟩ := follows_of_step hf step
    obtain ⟨_, _, hc⟩ := rest_of_step step
    refine ⟨d', ?_, hf'⟩
    have hget : tokens[p.cursor]? = some t := by
      rw [← List.head?_drop, ← rest_of_steps hsteps, ht]
      rfl
    rw [hc, List.take_add_one, hget]
    exact hread.snoc hr

end Progress

/-! ### Breaches -/

/-- Whether a failure is a breach of the grammar. -/
def IsBreach : Failure → Prop
  | .error e => e.cause.kind = .malformedExpression
  | .fault _ => False

theorem isBreach_evaluationFailure {e : Failure} : IsBreach (evaluationFailure e) ↔ IsBreach e := by
  cases e with
  | error e => rfl
  | fault f =>
    simp only [evaluationFailure]
    split <;> simp [IsBreach, Error.Cause.kind]

theorem not_isBreach_of_fails {s : State} {t : Token} {e : Failure} (h : s.Fails limit t e) :
    ¬ IsBreach e := by
  cases h with
  | number h hx => simp [State.numberValue_eq_error hx, IsBreach, Error.Cause.kind]
  | factor h hx hy => simp [State.term_eq_error hy, IsBreach, Error.Cause.kind]
  | group h full | call h full => simp [tooDeep, IsBreach]
  | apply h hy =>
    obtain ⟨f, -, ⟨-, rfl⟩ | ⟨-, -, rfl⟩⟩ := State.apply_eq_error hy <;>
      simp [IsBreach, Error.Cause.kind]
  | close h hy hz => simp [State.term_eq_error hz, IsBreach, Error.Cause.kind]

/-- Only the resolver itself could break the grammar while it is queried. -/
theorem not_isBreach_of_query {log : Transcript σ} {t : Token} {e : Failure}
    (hR : ∀ state name e, (R.resolve state name).answer = .error e → ¬ IsBreach e)
    (h : (log.query R t).1 = .error e) : ¬ IsBreach e := by
  rw [fst_query, answerValue_eq_error] at h
  rcases h with ⟨f, hf, rfl⟩ | ⟨value, fault, -, -, rfl⟩
  · have hb := hR _ _ _ hf
    cases f with
    | error e => exact hb
    | fault fault =>
      simp only [queryFailure]
      split <;> simp [IsBreach, Error.Cause.kind]
  · simp only [queryFailure]
    split <;> simp [IsBreach, Error.Cause.kind]

/-- A breach is reported when a token is refused, and only then. -/
theorem refuses_of_isBreach {p : Progress σ} {o : Outcome σ} {e : Failure}
    (hR : ∀ state name e, (R.resolve state name).answer = .error e → ¬ IsBreach e)
    (h : Progress.Ends R limit goal p o) (he : o.result = .error e) (hb : IsBreach e) :
    ∃ t ts breach, p.rest = t :: ts ∧ e = breachAt t breach ∧ o.cursor = p.cursor ∧
      p.state.Refuses goal t breach := by
  -- of all the ways to end, only a token that is refused breaks the grammar
  cases h with
  | @exhausted s _ _ =>
    dsimp only at he
    unfold State.atEnd at he
    split at he
    · cases he
    · cases he
      cases hb
  | unanswered h hx =>
    cases he
    exact absurd hb (not_isBreach_of_query hR hx)
  | unfit h hx hy =>
    cases he
    rw [State.term_eq_error hy] at hb
    cases hb
  | fail h =>
    cases he
    exact absurd hb (not_isBreach_of_fails h)
  | refuse h =>
    cases he
    exact ⟨_, _, _, rfl, rfl, rfl, h⟩
  | stop hp hs hw => cases he

/-- An evaluation has a value where it meets the end behind an expression. -/
theorem readsAll_of_ends_ok {p : Progress σ} {o : Outcome σ} {x : Float} {d : Draft}
    (hf : p.state.Follows d) (h : Progress.Ends R limit .whole p o) (hx : o.result = .ok x) :
    ∃ t ts sum term, p.rest = t :: ts ∧ t.kind = .eof ∧ d = .value sum term [] := by
  cases h with
  | @exhausted s _ _ =>
    dsimp only at hx
    unfold State.atEnd at hx
    split at hx
    · next hg => cases hg
    · cases hx
  | stop hp hs hw =>
    cases hf with
    | value hl =>
      cases hl
      exact ⟨_, _, _, _, rfl, hw rfl, rfl⟩
  | unanswered | unfit | fail | refuse => cases hx

/-! ### Acceptance -/

/-- If all tokens up to an end have been read, they are the tokens before the first end. -/
theorem takeWhile_eq_take {tokens ts : List Token} {t : Token} {n : Nat} {d : Draft}
    (hread : Draft.ReadsAll .start (tokens.take n) d) (hrest : tokens.drop n = t :: ts)
    (ht : t.kind = .eof) :
    tokens.takeWhile (fun t => t.kind ≠ .eof) = tokens.take n := by
  have hpos : ∀ t ∈ tokens.take n, decide (t.kind ≠ .eof) = true := fun t h =>
    decide_eq_true (Draft.kind_ne_eof_of_readsAll hread t h)
  conv_lhs => rw [← List.take_append_drop n tokens, hrest]
  rw [List.takeWhile_append_of_pos hpos, List.takeWhile_cons]
  simp [ht]

/-- **Evaluation is exact**: a value is found only if the tokens before the first end are a
sentence, and a breach of the grammar is reported at the cursor, which stands at the first token
with which what has been read goes on to no sentence: the tokens before it can be completed to a
sentence, and either none begins with it as well, or it is the first end and the tokens before it
are no sentence. -/
theorem evaluate_exact (R : Resolver σ)
    (hR : ∀ state name e, (R.resolve state name).answer = .error e → ¬ IsBreach e) (limit : Nat)
    (state : σ) (tokens : List Token) :
    let outcome := evaluate R limit state tokens
    let before := tokens.takeWhile fun t => t.kind ≠ .eof
    (∀ x, outcome.result = .ok x → Sentence before) ∧
      ∀ e, outcome.result = .error (.error e) → e.cause.kind = .malformedExpression →
        ∃ t, tokens[outcome.cursor]? = some t ∧ e.pos = some t.pos ∧
          (∃ us, Sentence (tokens.take outcome.cursor ++ us)) ∧
          (t.kind ≠ .eof ∧ (∀ us, ¬ Sentence (tokens.take (outcome.cursor + 1) ++ us)) ∨
            t.kind = .eof ∧ outcome.cursor = before.length ∧ ¬ Sentence before) := by
  intro outcome before
  cases hend : isTerminated tokens with
  | false =>
    have hout : outcome.result = .error (.fault .unterminated) := by
      simp only [outcome, evaluate, hend, Bool.false_eq_true, ↓reduceIte]
    constructor
    · intro x h
      rw [hout] at h
      cases h
    · intro e h
      rw [hout] at h
      cases h
  | true =>
    obtain ⟨p, hsteps, hends⟩ := @Progress.exists_steps_ends _ R limit .whole
      (Progress.start state tokens)
    obtain ⟨d, hread, hf⟩ := Progress.follows_of_steps hsteps
    have hrest := Progress.rest_of_steps hsteps
    simp only [outcome, before, Progress.evaluate_of_isTerminated state hend, result_reported,
      cursor_reported]
    constructor
    -- a value is found at the end of all that has been read, and behind a whole expression
    · intro x hx
      obtain ⟨t, ts, sum, term, ht, hk, rfl⟩ :=
        readsAll_of_ends_ok hf hends (mapError_eq_ok.mp hx)
      rw [takeWhile_eq_take hread (hrest ▸ ht) hk]
      exact Draft.sentence_iff_readsAll.mpr ⟨sum, term, hread⟩
    -- a breach is the refusal of the token at the cursor, which the draft cannot read
    · intro e he hcause
      obtain ⟨f, hres, hfe⟩ := mapError_eq_error.mp he
      have hb : IsBreach f := isBreach_evaluationFailure.mp (hfe ▸ hcause)
      obtain ⟨t, ts, breach, ht, rfl, hc, href⟩ := refuses_of_isBreach hR hends hres hb
      have hdrop : tokens.drop p.cursor = t :: ts := hrest ▸ ht
      have hget : tokens[p.cursor]? = some t := by
        rw [← List.head?_drop, hdrop]
        rfl
      rw [hc]
      cases hfe
      refine ⟨t, hget, rfl, Draft.exists_sentence_of_readsAll hread, ?_⟩
      by_cases hk : t.kind = .eof
      · refine .inr ⟨hk, ?_, ?_⟩
        · have hlt : p.cursor < tokens.length := (List.getElem?_eq_some_iff.mp hget).1
          rw [takeWhile_eq_take hread hdrop hk, List.length_take]
          omega
        · rw [takeWhile_eq_take hread hdrop hk]
          intro hs
          obtain ⟨sum, term, hv⟩ := Draft.sentence_iff_readsAll.mp hs
          exact State.ne_value_of_refuses_atEnd hf href hk sum term (Draft.readsAll_unique hread hv)
      · refine .inl ⟨hk, fun us => ?_⟩
        rw [List.take_add_one, hget, Option.toList_some, List.append_assoc]
        exact Draft.not_sentence_of_not_reads hread (State.not_reads_of_refuses hf href) us

/-- A table of values never reports a breach of the grammar. -/
theorem not_isBreach_table {bindings : Bindings Value} {name : String} {e : Failure}
    (h : (Resolver.table.resolve bindings name).answer = .error e) : ¬ IsBreach e := by
  unfold Resolver.table at h
  dsimp only at h
  split at h
  · cases h
  · cases h
    simp [Failure.unresolved, IsBreach, Error.Cause.kind]

/-- The tokens of `(x*)`, where an operand is missing. -/
def productWithoutOperand : List Token :=
  [spelled .lparen '(' 0, spelled .variable 'x' 1, spelled .operator '*' 2,
    spelled .rparen ')' 3, spelled .eof ' ' 4]

/-- The closing parenthesis is reported, since `(x*` is the beginning of a sentence and `(x*)` is
not. -/
theorem evaluate_productWithoutOperand :
    let bindings := Bindings.ofList [("x", Value.float 2.0)]
    let outcome := evaluate Resolver.table 1 bindings productWithoutOperand
    (∀ state name e, (Resolver.table.resolve state name).answer = .error e → ¬ IsBreach e) ∧
      outcome.cursor = 3 ∧ (∃ us, Sentence (productWithoutOperand.take 3 ++ us)) ∧
        ∀ us, ¬ Sentence (productWithoutOperand.take 4 ++ us) := by
  intro bindings outcome
  have hR := fun state name e => @not_isBreach_table state name e
  have hcursor : outcome.cursor = 3 := by decide +kernel
  have hresult : ∃ e, outcome.result = .error (.error e) ∧ e.cause.kind = .malformedExpression :=
    ⟨_, rfl, rfl⟩
  obtain ⟨e, he, hcause⟩ := hresult
  have hexact := (evaluate_exact Resolver.table hR 1 bindings productWithoutOperand).2 e he hcause
  obtain ⟨t, ht, -, hsome, hnone⟩ := hexact
  rw [hcursor] at ht hsome hnone
  cases ht
  rcases hnone with ⟨-, hnone⟩ | ⟨hend, -⟩
  · exact ⟨hR, hcursor, hsome, hnone⟩
  · cases hend

end Calculator.Evaluation
