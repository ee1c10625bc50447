import Calculator.Proofs.Evaluation.Acceptance
import Calculator.Proofs.Evaluation.Tree

/-!
# Evaluations and the trees of their tokens

An evaluation that has a value has read the tokens of a tree, and the value is that of the tree
(`exists_tree_of_ok`).  Conversely the tokens of a tree that is not too deep are evaluated to the
value of the tree (`result_of_tree`).  How many parentheses may be open makes no difference to an
evaluation that does not open too many (`outcome_of_le`).
-/

namespace Calculator

theorem Token.eq_atEnd {t : Token} (h : t.kind = .eof) : t = Token.atEnd t.pos :=
  Token.eq_of_fields h (t.text_eq_empty_iff.mpr h) rfl

namespace Evaluation

open Grammar

variable {σ : Type} {R : Resolver σ} {limit limit' : Nat} {goal : Goal}

/-! ### A larger limit -/

theorem State.reads_of_le {s next : State} {t : Token} (hle : limit ≤ limit')
    (h : s.Reads limit goal t next) : s.Reads limit' goal t next := by
  cases h with
  | number h hx hy => exact .number h hx hy
  | name h => exact .name h
  | group h room => exact .group h (Nat.lt_of_lt_of_le room hle)
  | call h room => exact .call h (Nat.lt_of_lt_of_le room hle)
  | product h => exact .product h
  | sum h => exact .sum h
  | close h hy hz => exact .close h hy hz

/-- Only opening a parenthesis too many depends on the limit. -/
theorem State.fails_of_ne_tooDeep {s : State} {t : Token} {e : Failure} (h : s.Fails limit t e)
    (he : e ≠ tooDeep) : s.Fails limit' t e := by
  cases h with
  | number h hx => exact .number h hx
  | factor h hx hy => exact .factor h hx hy
  | group h full => exact absurd rfl he
  | call h full => exact absurd rfl he
  | apply h hy => exact .apply h hy
  | close h hy hz => exact .close h hy hz

namespace Progress

variable {p q : Progress σ} {o : Outcome σ}

theorem step_of_le (hle : limit ≤ limit') (h : Step R limit goal p q) :
    Step R limit' goal p q := by
  cases h with
  | read h => exact .read (State.reads_of_le hle h)
  | answer h hx hy => exact .answer h hx hy

theorem ends_of_ne_tooDeep (h : Ends R limit goal p o) (ho : o.result ≠ .error tooDeep) :
    Ends R limit' goal p o := by
  cases h with
  | exhausted => exact .exhausted
  | unanswered h he => exact .unanswered h he
  | unfit h hx he => exact .unfit h hx he
  | fail h => exact .fail (State.fails_of_ne_tooDeep h fun he => ho (congrArg Except.error he))
  | refuse h => exact .refuse h
  | stop hp hs hw => exact .stop hp hs hw

/-- An evaluation that does not open too many parentheses ends in the same way if more of them may
be open. -/
theorem outcome_of_le (hle : limit ≤ limit')
    (ho : (p.outcome R limit goal).result ≠ .error tooDeep) :
    p.outcome R limit' goal = p.outcome R limit goal := by
  obtain ⟨q, hsteps, hends⟩ := @exists_steps_ends _ R limit goal p
  have hsteps' : Steps R limit' goal p q :=
    Relation.ReflTransGen.mono (fun _ _ => step_of_le hle) p q hsteps
  rw [outcome_eq_of_steps hsteps', outcome_eq_of_ends (ends_of_ne_tooDeep hends ho)]

end Progress

/-! ### Trees -/

theorem isTerminated_of_ok {state : σ} {tokens : List Token} {x : Float}
    (h : (evaluate R limit state tokens).result = .ok x) : isTerminated tokens = true := by
  cases hend : isTerminated tokens with
  | true => rfl
  | false =>
    simp only [evaluate, hend, Bool.false_eq_true, ↓reduceIte] at h
    cases h

/-- **An evaluation that has a value has read a tree**, and the value is that of the tree. -/
theorem exists_tree_of_ok {state : σ} {tokens : List Token} {x : Float}
    (h : (evaluate R limit state tokens).result = .ok x) :
    ∃ (e : Expression) (pos : Nat) (rest : List Token),
      tokens = e.tokens ++ Token.atEnd pos :: rest ∧ (e.meaning R { state }).1 = .ok x := by
  have hend := isTerminated_of_ok h
  rw [Progress.evaluate_of_isTerminated state hend, result_reported, mapError_eq_ok] at h
  obtain ⟨p, hsteps, hends⟩ := @Progress.exists_steps_ends _ R limit .whole
    (Progress.start state tokens)
  obtain ⟨d, hread, hf⟩ := Progress.follows_of_steps hsteps
  obtain ⟨t, ts, sum, term, ht, hk, rfl⟩ := readsAll_of_ends_ok hf hends h
  obtain ⟨e, he⟩ := Draft.sentence_iff_readsAll.mpr ⟨sum, term, hread⟩
  have htokens : tokens = e.tokens ++ Token.atEnd t.pos :: ts := by
    have hdrop : tokens.drop p.cursor = t :: ts := by rw [← Progress.rest_of_steps hsteps, ht]
    rw [he, ← Token.eq_atEnd hk, ← hdrop, List.take_append_drop]
  refine ⟨e, t.pos, ts, htokens, ?_⟩
  -- the tree may be read with a limit that is large enough for it, as that changes nothing
  have hlimit : (Progress.start state tokens).outcome R (max limit e.depth) .whole =
      (Progress.start state tokens).outcome R limit .whole :=
    Progress.outcome_of_le (Nat.le_max_left limit e.depth) (by simp [h])
  have hmeaning := meaning_before_end (R := R) e state t.pos ts (Nat.le_max_right limit e.depth)
  rw [← htokens, Progress.meaning, hlimit, h] at hmeaning
  rw [← hmeaning]

theorem result_of_tree {state : σ} {e : Expression} {pos : Nat} {rest : List Token}
    (hd : e.depth ≤ limit) (hend : isTerminated (e.tokens ++ Token.atEnd pos :: rest) = true) :
    (evaluate R limit state (e.tokens ++ Token.atEnd pos :: rest)).result =
      (e.meaning R { state }).1.mapError evaluationFailure := by
  rw [Progress.evaluate_of_isTerminated state hend, result_reported,
    ← meaning_before_end e state pos rest hd]
  rfl

end Evaluation

end Calculator
