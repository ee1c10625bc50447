import Calculator.Proofs.Evaluation.Depth
import Calculator.Proofs.Evaluation.Derivation
import Calculator.Proofs.Grammar.Nesting

/-!
# How deeply evaluations nest

An evaluation has as many parentheses open as the tokens that it has read open and do not close
(`surplus_of_steps`), and never more than allowed (`not_opensBeyond_of_steps`).  So it fails for
parentheses nested too deeply exactly where it reads a parenthesis that is one too many
(`evaluate_fails_tooDeep_iff`), and whatever else happens, happens in the same way if more of them
may be open (`evaluate_of_not_opensBeyond`).
-/

namespace Calculator

namespace Grammar

open Evaluation

/-! ### Counting parentheses -/

/-- Whether the token at an index opens a parenthesis, and behind it more than `limit` of those that
the tokens have opened are not closed. -/
def OpensBeyond (limit : Nat) (tokens : List Token) (i : Nat) : Prop :=
  ∃ t, tokens[i]? = some t ∧ t.kind = .lparen ∧ limit < surplus (tokens.take (i + 1))

theorem surplus_le_length (ts : List Token) : surplus ts ≤ ts.length := by
  unfold surplus
  have hle := List.countP_le_length (p := fun t : Token => t.kind = .lparen) (l := ts)
  omega

theorem not_opensBeyond_of_nestedWithin {limit : Nat} {tokens : List Token} {i : Nat}
    (h : NestedWithin limit (tokens.take (i + 1))) : ¬ OpensBeyond limit tokens i := by
  rintro ⟨t, -, -, hbeyond⟩
  have hle := h _ (List.prefix_refl _)
  omega

/-- No parenthesis is one too many if as many as tokens are allowed. -/
theorem not_opensBeyond_of_length_le {limit : Nat} {tokens : List Token} {i : Nat}
    (h : tokens.length ≤ limit) : ¬ OpensBeyond limit tokens i := by
  rintro ⟨t, -, -, hsurplus⟩
  have hle := surplus_le_length (tokens.take (i + 1))
  rw [List.length_take] at hle
  omega

theorem NestedWithin.of_prefix {limit : Nat} {ts us : List Token} (h : NestedWithin limit ts)
    (hus : us <+: ts) : NestedWithin limit us :=
  fun vs hvs => h vs (hvs.trans hus)

theorem surplus_of_depthBehind? {m n : Nat} {t : Token} (h : depthBehind? m t = some n) :
    surplus [t] = n - m := by
  unfold depthBehind? at h
  split at h
  · next hk =>
    cases h
    rw [surplus_of_lparen hk]
    omega
  · next hk =>
    split at h
    · cases h
    · cases h
      rw [surplus_of_rparen hk]
      omega
  all_goals
    next hk =>
    cases h
    rw [surplus_of_ne (by simp [hk]) (by simp [hk])]
    omega

/-- The surplus of tokens is what they add to the number of open parentheses. -/
theorem surplus_of_foldlM {m n : Nat} {ts : List Token} (h : ts.foldlM depthBehind? m = some n) :
    surplus ts = n - m := by
  induction ts generalizing m with
  | nil =>
    cases h
    rw [Int.sub_self]
    rfl
  | cons t ts ih =>
    obtain ⟨k, hk, hrest⟩ := Option.bind_eq_some_iff.mp h
    have hfirst := surplus_of_depthBehind? hk
    have hothers := ih hrest
    rw [surplus_cons, hfirst, hothers]
    omega

end Grammar

namespace Evaluation

open Grammar

variable {σ : Type} {R : Resolver σ} {limit : Nat} {goal : Goal}

/-! ### Open parentheses -/

theorem State.length_frames_le_of_reads {s next : State} {t : Token}
    (h : s.Reads limit goal t next) (hle : s.frames.length ≤ limit) :
    next.frames.length ≤ limit := by
  cases h with
  | number | name | product | sum => exact hle
  | group h room | call h room => exact room
  | close => exact Nat.le_of_succ_le hle

namespace Progress

variable {p q : Progress σ} {o : Outcome σ} {t : Token} {ts : List Token} {state : σ}
  {tokens : List Token}

theorem surplus_of_steps (h : Steps R limit goal p q) :
    surplus (between p q) = q.state.frames.length - p.state.frames.length :=
  surplus_of_foldlM (foldlM_depthBehind? h)

theorem length_frames_le_of_steps (h : Steps R limit goal p q)
    (hp : p.state.frames.length ≤ limit) : q.state.frames.length ≤ limit := by
  induction h with
  | refl => exact hp
  | tail _ step ih =>
    cases step with
    | read h => exact State.length_frames_le_of_reads h ih
    | answer => exact ih

/-- What is read opens no more parentheses than allowed. -/
theorem nestedWithin_of_steps (h : Steps R limit goal p q) (hp : p.state.frames = []) :
    NestedWithin limit (between p q) := by
  refine between_induction (motive := fun us _ => NestedWithin limit us) h ?_ ?_
  · intro vs hvs
    rw [List.prefix_nil.mp hvs]
    exact Int.natCast_nonneg limit
  · intro us q r t hsteps hus ih hstep ht vs hvs
    -- a beginning with the last token is all that has been read, and opens what is open now
    rcases List.prefix_concat_iff.mp hvs with rfl | hvs
    · have hsurplus := surplus_of_steps (hsteps.tail hstep)
      have hle := length_frames_le_of_steps (hsteps.tail hstep) (by simp [hp])
      rw [between_snoc hsteps hstep ht, ← hus, hp, List.length_nil] at hsurplus
      omega
    · exact ih vs hvs

theorem not_opensBeyond_of_steps (h : Steps R limit goal (start state tokens) p) {i : Nat}
    (hi : i < p.cursor) : ¬ OpensBeyond limit tokens i := by
  have hnested : NestedWithin limit (tokens.take p.cursor) := nestedWithin_of_steps h rfl
  refine not_opensBeyond_of_nestedWithin (hnested.of_prefix ?_)
  exact List.take_prefix_take_left (by omega)

/-- The parenthesis that is one too many. -/
theorem opensBeyond_of_full (h : Steps R limit goal (start state tokens) p)
    (ht : p.rest = t :: ts) (hk : t.kind = .lparen) (full : limit ≤ p.state.frames.length) :
    OpensBeyond limit tokens p.cursor := by
  have hget : tokens[p.cursor]? = some t := getElem?_cursor (rest_of_steps h) ht
  have hsurplus : surplus (tokens.take p.cursor) = p.state.frames.length - 0 := surplus_of_steps h
  refine ⟨t, hget, hk, ?_⟩
  rw [List.take_add_one, hget, Option.toList_some, surplus_append, hsurplus, surplus_of_lparen hk]
  omega

/-- There are never more parentheses open than tokens read. -/
theorem length_frames_le_cursor (h : Steps R limit goal (start state tokens) p) :
    p.state.frames.length ≤ p.cursor := by
  have hsurplus : surplus (tokens.take p.cursor) = p.state.frames.length - 0 := surplus_of_steps h
  have hle := surplus_le_length (tokens.take p.cursor)
  rw [List.length_take] at hle
  omega

end Progress

/-! ### Failures for parentheses nested too deeply -/

/-- Whether a failure is that of parentheses, or of calls, nested too deeply. -/
def IsTooDeep : Failure → Prop
  | .error e => e.cause = .nestingTooDeep
  | .fault f => f.kind = .recursion

theorem isTooDeep_iff {f : Failure} :
    IsTooDeep f ↔ ∃ e, evaluationFailure f = .error e ∧ e.cause = .nestingTooDeep := by
  cases f with
  | error e => simp [IsTooDeep, evaluationFailure]
  | fault f =>
    unfold IsTooDeep evaluationFailure
    dsimp only
    split
    · next h => simp [h]
    · next h => simp [h]

/-- No value is missing because of calls nested too deeply. -/
theorem kind_of_toFloat {value : Value} {f : Fault} (h : value.toFloat = .error f) :
    f.kind ≠ .recursion := by
  unfold Value.toFloat at h
  split at h
  · cases h
  · cases h
  · unfold intToFloat at h
    split at h
    · cases h
      decide
    · cases h
  · unfold textToFloat at h
    split at h
    · cases h
    · cases h
      simp [Fault.kind]
  · cases h
    simp [Fault.kind]

theorem not_isTooDeep_queryFailure {t : Token} {f : Failure} (h : ¬ IsTooDeep f) :
    ¬ IsTooDeep (queryFailure t f) := by
  cases f with
  | error e => exact h
  | fault f =>
    unfold queryFailure
    dsimp only
    split
    · simp [IsTooDeep]
    · exact h

theorem not_isTooDeep_of_query {log : Transcript σ} {t : Token} {f : Failure}
    (hR : ∀ state name f, (R.resolve state name).answer = .error f → ¬ IsTooDeep f)
    (h : (log.query R t).1 = .error f) : ¬ IsTooDeep f := by
  rw [fst_query, answerValue_eq_error] at h
  rcases h with ⟨f, hf, rfl⟩ | ⟨value, fault, -, hx, rfl⟩
  · exact not_isTooDeep_queryFailure (hR _ _ f hf)
  · exact not_isTooDeep_queryFailure (kind_of_toFloat hx)

/-- An evaluation fails for parentheses nested too deeply with a parenthesis that is opened while as
many are open as allowed, and that is read if more are allowed. -/
theorem full_of_isTooDeep {p : Progress σ} {o : Outcome σ} {f : Failure}
    (hR : ∀ state name f, (R.resolve state name).answer = .error f → ¬ IsTooDeep f)
    (h : Progress.Ends R limit goal p o) (ho : o.result = .error f) (hf : IsTooDeep f) :
    f = tooDeep ∧ o.cursor = p.cursor + 1 ∧ ∃ t ts, p.rest = t :: ts ∧ t.kind = .lparen ∧
      limit ≤ p.state.frames.length ∧
        ∀ limit', p.state.frames.length < limit' → ∃ next, p.state.Reads limit' goal t next := by
  -- the cases `group` and `call` are those of the parenthesis; all others fail for other causes
  cases h with
  | exhausted =>
    dsimp only at ho
    unfold State.atEnd at ho
    split at ho
    · cases ho
    · cases ho
      cases hf
  | unanswered hk he =>
    cases ho
    exact absurd hf (not_isTooDeep_of_query hR he)
  | unfit hk hx he =>
    cases ho
    rw [State.term_eq_error he] at hf
    cases hf
  | fail h =>
    cases ho
    cases h with
    | number hk hx =>
      rw [State.numberValue_eq_error hx] at hf
      cases hf
    | factor hk hx hy =>
      rw [State.term_eq_error hy] at hf
      cases hf
    | group hk full => exact ⟨rfl, rfl, _, _, rfl, hk, full, fun _ room => ⟨_, .group hk room⟩⟩
    | call hk full => exact ⟨rfl, rfl, _, _, rfl, hk, full, fun _ room => ⟨_, .call hk room⟩⟩
    | apply hk hy =>
      obtain ⟨function, -, ⟨-, rfl⟩ | ⟨-, -, rfl⟩⟩ := State.apply_eq_error hy
      · cases hf
      · cases hf
    | close hk hy hz =>
      rw [State.term_eq_error hz] at hf
      cases hf
  | refuse h =>
    cases ho
    cases hf
  | stop => cases ho

/-- An evaluation that ends with an opening parenthesis that it reads, fails with it. -/
theorem result_of_lparen {p : Progress σ} {o : Outcome σ} {t : Token} {ts : List Token}
    (h : Progress.Ends R limit goal p o) (ht : p.rest = t :: ts) (hk : t.kind = .lparen)
    (hc : o.cursor = p.cursor + 1) : o.result = .error tooDeep := by
  cases h with
  | exhausted => cases ht
  | unanswered h | unfit h =>
    cases ht
    rw [hk] at h
    cases h
  | fail h =>
    cases ht
    cases h with
    | group | call => rfl
    | number h | factor h | apply h | close h =>
      rw [hk] at h
      cases h
  | refuse | stop => exact absurd hc.symm (Nat.succ_ne_self _)

namespace Progress

variable {state : σ} {tokens : List Token}

/-- Before the parenthesis that is one too many none is. -/
theorem opensBeyond_of_tooDeep {f : Failure}
    (hR : ∀ state name f, (R.resolve state name).answer = .error f → ¬ IsTooDeep f)
    (ho : ((start state tokens).outcome R limit goal).result = .error f) (hf : IsTooDeep f) :
    f = tooDeep ∧ ∃ i, ((start state tokens).outcome R limit goal).cursor = i + 1 ∧
      i < ((start state tokens).outcome R tokens.length goal).cursor ∧
      OpensBeyond limit tokens i ∧ ∀ j < i, ¬ OpensBeyond limit tokens j := by
  obtain ⟨p, hsteps, hends⟩ := @exists_steps_ends _ R limit goal (start state tokens)
  obtain ⟨rfl, hcursor, t, ts, ht, hk, full, hreads⟩ := full_of_isTooDeep hR hends ho hf
  refine ⟨rfl, p.cursor, hcursor, ?_, opensBeyond_of_full hsteps ht hk full,
    fun j hj => not_opensBeyond_of_steps hsteps hj⟩
  -- if as many parentheses as tokens may be open, this one is read as well
  have hlt : p.cursor < tokens.length :=
    (List.getElem?_eq_some_iff.mp (getElem?_cursor (rest_of_steps hsteps) ht)).1
  have hframes := length_frames_le_cursor hsteps
  have hsteps' : Steps R tokens.length goal (start state tokens) p :=
    Relation.ReflTransGen.mono (fun _ _ => step_of_le (by omega)) _ _ hsteps
  obtain ⟨next, hnext⟩ := hreads tokens.length (by omega)
  have hstep : Step R tokens.length goal p ⟨next, p.cursor + 1, p.log, ts⟩ := by
    obtain ⟨s, cursor, log, rest⟩ := p
    cases ht
    exact .read hnext
  rw [outcome_eq_of_steps (hsteps'.tail hstep)]
  exact @cursor_le_outcome _ R tokens.length goal
    ⟨next, p.cursor + 1, p.log, ts⟩

/-- An evaluation that does not fail for parentheses nested too deeply reads none that is one too
many. -/
theorem not_opensBeyond_of_ne_tooDeep
    (ho : ((start state tokens).outcome R limit goal).result ≠ .error tooDeep) {i : Nat}
    (hi : i < ((start state tokens).outcome R limit goal).cursor) :
    ¬ OpensBeyond limit tokens i := by
  obtain ⟨p, hsteps, hends⟩ := @exists_steps_ends _ R limit goal (start state tokens)
  rcases Nat.lt_or_ge i p.cursor with hlt | hge
  · exact not_opensBeyond_of_steps hsteps hlt
  · -- the token at `i` is the one that the evaluation ends with, and it opens no parenthesis
    rcases cursor_of_ends hends with ⟨hc, -⟩ | ⟨t, ts, ht, hc, -, -⟩
    · omega
    · have hip : i = p.cursor := by omega
      subst hip
      rintro ⟨u, hu, hk, -⟩
      rw [getElem?_cursor (rest_of_steps hsteps) ht] at hu
      cases hu
      exact ho (result_of_lparen hends ht hk hc)

/-- **Too deep is where a parenthesis is one too many**, among the tokens that are read when as many
parentheses as tokens may be open. -/
theorem result_eq_tooDeep_iff
    (hR : ∀ state name f, (R.resolve state name).answer = .error f → ¬ IsTooDeep f) :
    ((start state tokens).outcome R limit goal).result = .error tooDeep ↔
      ∃ i < ((start state tokens).outcome R tokens.length goal).cursor,
        OpensBeyond limit tokens i := by
  constructor
  · intro ho
    obtain ⟨-, i, -, hi, hbeyond, -⟩ := opensBeyond_of_tooDeep hR ho rfl
    exact ⟨i, hi, hbeyond⟩
  · rintro ⟨i, hi, hbeyond⟩
    by_contra ho
    -- the number of tokens is the larger limit, so it does not change this evaluation
    have hle : limit ≤ tokens.length := by
      by_contra hlt
      exact not_opensBeyond_of_length_le (by omega) hbeyond
    rw [outcome_of_le hle ho] at hi
    exact not_opensBeyond_of_ne_tooDeep ho hi hbeyond

end Progress

/-! ### Whole evaluations -/

section Whole

variable {state : σ} {tokens : List Token}
  (hR : ∀ state name f, (R.resolve state name).answer = .error f → ¬ IsTooDeep f)
  (hend : isTerminated tokens = true)

include hR hend

theorem result_outcome_eq_tooDeep_iff :
    ((Progress.start state tokens).outcome R limit .whole).result = .error tooDeep ↔
      ∃ i < (evaluate R tokens.length state tokens).cursor, OpensBeyond limit tokens i := by
  rw [Progress.evaluate_of_isTerminated state hend, cursor_reported]
  exact Progress.result_eq_tooDeep_iff hR

/-- A failure for parentheses nested too deeply is that of a parenthesis that is one too many. -/
theorem evaluate_fails_tooDeep_iff :
    (∃ e, (evaluate R limit state tokens).result = .error (.error e) ∧
        e.cause = .nestingTooDeep) ↔
      ∃ i < (evaluate R tokens.length state tokens).cursor, OpensBeyond limit tokens i := by
  rw [← result_outcome_eq_tooDeep_iff hR hend, Progress.evaluate_of_isTerminated state hend,
    result_reported]
  constructor
  · rintro ⟨e, he, hcause⟩
    obtain ⟨f, hf, hfe⟩ := mapError_eq_error.mp he
    obtain ⟨rfl, -⟩ := Progress.opensBeyond_of_tooDeep hR hf (isTooDeep_iff.mpr ⟨e, hfe, hcause⟩)
    exact hf
  · intro h
    exact ⟨_, mapError_eq_error.mpr ⟨_, h, rfl⟩, rfl⟩

/-- The first parenthesis that is one too many is the last token that is read. -/
theorem evaluate_of_opensBeyond {i : Nat}
    (hi : i < (evaluate R tokens.length state tokens).cursor) (hbeyond : OpensBeyond limit tokens i)
    (hfirst : ∀ j < i, ¬ OpensBeyond limit tokens j) :
    (evaluate R limit state tokens).result = .error (.error { cause := .nestingTooDeep }) ∧
      (evaluate R limit state tokens).cursor = i + 1 := by
  have hdeep := (result_outcome_eq_tooDeep_iff hR hend).mpr ⟨i, hi, hbeyond⟩
  obtain ⟨-, k, hk, -, hbeyond', hfirst'⟩ := Progress.opensBeyond_of_tooDeep hR hdeep rfl
  -- both are the first parenthesis that is one too many
  have hki : k = i := by
    rcases Nat.lt_trichotomy k i with hlt | heq | hgt
    · exact absurd hbeyond' (hfirst k hlt)
    · exact heq
    · exact absurd hbeyond (hfirst' i hgt)
  rw [Progress.evaluate_of_isTerminated state hend, result_reported, cursor_reported, hk, hki]
  exact ⟨mapError_eq_error.mpr ⟨_, hdeep, rfl⟩, rfl⟩

/-- If no parenthesis is one too many, a larger limit makes no difference. -/
theorem evaluate_of_not_opensBeyond {limit' : Nat} (hle : limit ≤ limit')
    (hnone : ∀ i < (evaluate R tokens.length state tokens).cursor, ¬ OpensBeyond limit tokens i) :
    evaluate R limit' state tokens = evaluate R limit state tokens := by
  have hne : ((Progress.start state tokens).outcome R limit .whole).result ≠ .error tooDeep := by
    intro hdeep
    obtain ⟨i, hi, hbeyond⟩ := (result_outcome_eq_tooDeep_iff hR hend).mp hdeep
    exact hnone i hi hbeyond
  rw [Progress.evaluate_of_isTerminated state hend, Progress.evaluate_of_isTerminated state hend,
    Progress.outcome_of_le hle hne]

end Whole

/-- **How deeply an evaluation may nest**: it fails for parentheses nested too deeply exactly if,
among the tokens that are read when as many parentheses as tokens may be open (which is as good as
no limit at all), some parenthesis is one too many.  Then it fails with the first of these, which is
the last token that it reads.  In all other cases the limit makes no difference: a larger one leads
to the same result, the same queries and the same reports.  So neither the number of operators nor
that of groups beside each other counts, but only how deep the tokens are. -/
theorem evaluate_nested (R : Resolver σ)
    (hR : ∀ state name f, (R.resolve state name).answer = .error f → ¬ IsTooDeep f) (limit : Nat)
    (state : σ) (tokens : List Token) (hend : isTerminated tokens = true) :
    let outcome := evaluate R limit state tokens
    let unbounded := evaluate R tokens.length state tokens
    (∀ limit', tokens.length ≤ limit' → evaluate R limit' state tokens = unbounded) ∧
      ((∃ e, outcome.result = .error (.error e) ∧ e.cause = .nestingTooDeep) ↔
        ∃ i < unbounded.cursor, OpensBeyond limit tokens i) ∧
      (∀ i < unbounded.cursor, OpensBeyond limit tokens i →
        (∀ j < i, ¬ OpensBeyond limit tokens j) →
          outcome.result = .error (.error { cause := .nestingTooDeep }) ∧ outcome.cursor = i + 1) ∧
      ((∀ i < unbounded.cursor, ¬ OpensBeyond limit tokens i) →
        ∀ limit', limit ≤ limit' → evaluate R limit' state tokens = outcome) ∧
      (NestedWithin limit tokens →
        ∀ e, outcome.result = .error (.error e) → e.cause ≠ .nestingTooDeep) := by
  intro outcome unbounded
  have hiff : (∃ e, outcome.result = .error (.error e) ∧ e.cause = .nestingTooDeep) ↔
      ∃ i < unbounded.cursor, OpensBeyond limit tokens i :=
    evaluate_fails_tooDeep_iff hR hend
  refine ⟨?unlimited, hiff, ?first, ?same, ?shallow⟩
  case unlimited =>
    intro limit' hle
    exact evaluate_of_not_opensBeyond hR hend hle
      fun i _ => not_opensBeyond_of_length_le (Nat.le_refl _)
  case first =>
    intro i hi hbeyond hfirst
    exact evaluate_of_opensBeyond hR hend hi hbeyond hfirst
  case same =>
    intro hnone limit' hle
    exact evaluate_of_not_opensBeyond hR hend hle hnone
  case shallow =>
    intro hnested e he hcause
    obtain ⟨i, -, hbeyond⟩ := hiff.mp ⟨e, he, hcause⟩
    have hprefix : NestedWithin limit (tokens.take (i + 1)) :=
      hnested.of_prefix (List.take_prefix (i + 1) tokens)
    exact not_opensBeyond_of_nestedWithin hprefix hbeyond

/-- A table of values never fails for calls nested too deeply. -/
theorem not_isTooDeep_table {bindings : Bindings Value} {name : String} {f : Failure}
    (h : (Resolver.table.resolve bindings name).answer = .error f) : ¬ IsTooDeep f := by
  unfold Resolver.table at h
  dsimp only at h
  split at h
  · cases h
  · cases h
    simp [Failure.unresolved, IsTooDeep]

/-- The tokens of `(x)*((x`, where two parentheses are left open. -/
def productOfGroups : List Token :=
  [spelled .lparen '(' 0, spelled .variable 'x' 1, spelled .rparen ')' 2, spelled .operator '*' 3,
    spelled .lparen '(' 4, spelled .lparen '(' 5, spelled .variable 'x' 6, Token.atEnd 7]

/-- With one parenthesis allowed, the third one is too many and the second `x` is not reached; with
two or more allowed, the missing parenthesis is reported, whatever the limit. -/
theorem evaluate_nested_productOfGroups :
    let bindings := Bindings.ofList [("x", Value.float 2.0)]
    (∀ state name f, (Resolver.table.resolve state name).answer = .error f → ¬ IsTooDeep f) ∧
      isTerminated productOfGroups = true ∧
      (evaluate Resolver.table 1 bindings productOfGroups).result =
        .error (.error { cause := .nestingTooDeep }) ∧
      (evaluate Resolver.table 1 bindings productOfGroups).cursor = 6 ∧
      ∀ limit, 2 ≤ limit → (evaluate Resolver.table limit bindings productOfGroups).result =
        .error (.error { cause := .malformedExpression .unclosedGroup, pos := some 7 }) := by
  intro bindings
  have hR := fun state name f => @not_isTooDeep_table state name f
  have hone := evaluate_nested Resolver.table hR 1 bindings productOfGroups rfl
  have htwo := evaluate_nested Resolver.table hR 2 bindings productOfGroups rfl
  have hread :
      5 < (evaluate Resolver.table productOfGroups.length bindings productOfGroups).cursor := by
    decide +kernel
  have hbefore : NestedWithin 1 (productOfGroups.take 5) := by decide
  have hall : NestedWithin 2 productOfGroups := by decide
  obtain ⟨hresult, hlast⟩ := hone.2.2.1 5 hread ⟨_, rfl, rfl, by decide⟩ fun j hj =>
    not_opensBeyond_of_nestedWithin (hbefore.of_prefix (List.take_prefix_take_left (by omega)))
  refine ⟨hR, rfl, hresult, hlast, fun limit hle => ?_⟩
  have hsame := htwo.2.2.2.1 (fun i _ => not_opensBeyond_of_nestedWithin
    (hall.of_prefix (List.take_prefix (i + 1) productOfGroups))) limit hle
  rw [hsame]
  decide +kernel

end Evaluation

end Calculator
