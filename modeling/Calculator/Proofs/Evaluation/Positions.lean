import Calculator.Proofs.Evaluation.Replay
import Mathlib.Data.List.Forall2

/-!
# Positions of tokens

An evaluation reads the kinds and the spellings of tokens, and puts their positions into its errors.
Two rows of tokens that differ in their positions at most are evaluated side by side: what has been
read stays alike (`steps_alike`), so the evaluations end alike (`evaluate_alike`).  They have the
same value, or fail alike: errors that are placed at a token of the one row are placed at the token
that corresponds to it in the other one, and all other failures are the same.

Which tokens correspond is left open: `P` may be any relation between tokens of the same kind and
spelling.
-/

namespace Calculator

/-- Whether a resolver answers one of the queries of names with an error. -/
def Resolver.AnswersWith {σ : Type} (R : Resolver σ) (state : σ) (names : List String)
    (e : Error) : Prop :=
  ∃ x ∈ R.exchanges state names, x.reply.answer = .error (.error e)

/-! ### What is alike -/

/-- Whether tokens have the same kind and spelling. -/
structure Token.Alike (t t' : Token) : Prop where
  kind : t'.kind = t.kind
  text : t'.text = t.text

section Alike

variable (P : Token → Token → Prop) {own own' : Error → Prop}

/-- Whether failures are the same, but for the position of the token they are placed at.  Errors in
`own` are the resolver's own, and the same wherever they are placed. -/
inductive Failure.Alike (own : Error → Prop) : Failure → Failure → Prop
  | placed {t t' : Token} {cause : Error.Cause} (h : P t t') :
      Alike own (.error { cause, pos := some t.pos }) (.error { cause, pos := some t'.pos })
  | unplaced {cause : Error.Cause} : Alike own (.error { cause }) (.error { cause })
  | fault {f : Fault} : Alike own (.fault f) (.fault f)
  | own {e : Error} (h : own e) : Alike own (.error e) (.error e)

variable {P} in
theorem Failure.Alike.mono {f f' : Failure} (h : f.Alike P own f') (hown : ∀ e, own e → own' e) :
    f.Alike P own' f' := by
  cases h with
  | placed h => exact .placed h
  | unplaced => exact .unplaced
  | fault => exact .fault
  | own h => exact .own (hown _ h)

namespace Evaluation

/-- Whether results are the same value, or failures that are alike. -/
inductive ResultAlike (own : Error → Prop) : Except Failure Float → Except Failure Float → Prop
  | value {x : Float} : ResultAlike own (.ok x) (.ok x)
  | failure {f f' : Failure} (h : f.Alike P own f') : ResultAlike own (.error f) (.error f')

/-- Whether evaluations end in the same way, but for the positions that their results speak of. -/
structure Outcome.Alike (own : Error → Prop) {σ : Type} (o o' : Outcome σ) : Prop where
  result : ResultAlike P own o.result o'.result
  cursor : o'.cursor = o.cursor
  log : o'.log = o.log

/-- Whether parentheses were opened for the same thing. -/
inductive Opener.Alike : Opener → Opener → Prop
  | group : Alike .group .group
  | call {f f' : Token} (h : P f f') : Alike (.call f) (.call f')

/-- Whether open parentheses, and what waits outside of them, are the same. -/
inductive Frame.Alike : Frame → Frame → Prop
  | mk {opener opener' : Opener} {pending : Pending} (h : opener.Alike P opener') :
      Alike ⟨opener, pending⟩ ⟨opener', pending⟩

/-- Whether the same has been read. -/
inductive State.Alike : State → State → Prop
  | operand {pending frames frames'} (h : List.Forall₂ (Frame.Alike P) frames frames') :
      Alike ⟨.operand, pending, frames⟩ ⟨.operand, pending, frames'⟩
  | argument {f f' pending frames frames'} (hf : P f f')
      (h : List.Forall₂ (Frame.Alike P) frames frames') :
      Alike ⟨.argument f, pending, frames⟩ ⟨.argument f', pending, frames'⟩
  | value {x pending frames frames'} (h : List.Forall₂ (Frame.Alike P) frames frames') :
      Alike ⟨.value x, pending, frames⟩ ⟨.value x, pending, frames'⟩

/-- Whether evaluations under way have read the same and have the same before them. -/
structure Progress.Alike {σ : Type} (p p' : Progress σ) : Prop where
  state : p.state.Alike P p'.state
  cursor : p'.cursor = p.cursor
  log : p'.log = p.log
  rest : List.Forall₂ P p.rest p'.rest

end Evaluation

end Alike

namespace Evaluation

variable {P : Token → Token → Prop} {own : Error → Prop} {limit : Nat} {goal : Goal}

theorem ResultAlike.mono {own' : Error → Prop} {r r' : Except Failure Float}
    (h : ResultAlike P own r r') (hown : ∀ e, own e → own' e) : ResultAlike P own' r r' := by
  cases h with
  | value => exact .value
  | failure h => exact .failure (h.mono hown)

theorem ResultAlike.eq_ok {r r' : Except Failure Float} {x : Float} (h : ResultAlike P own r r')
    (hr : r = .ok x) : r' = .ok x := by
  cases h with
  | value => exact hr
  | failure h => cases hr

theorem ResultAlike.eq_error {r r' : Except Failure Float} {f : Failure}
    (h : ResultAlike P own r r') (hr : r = .error f) : ∃ f', r' = .error f' ∧ f.Alike P own f' := by
  cases h with
  | value => cases hr
  | failure h =>
    cases hr
    exact ⟨_, rfl, h⟩

/-! ### Tokens -/

section Tokens

variable {t t' : Token}

theorem productOp?_alike (h : t.Alike t') : productOp? t' = productOp? t := by
  unfold productOp?
  rw [h.kind, h.text]

theorem sumOp?_alike (h : t.Alike t') : sumOp? t' = sumOp? t := by
  unfold sumOp?
  rw [h.kind, h.text]

theorem Goal.productOp?_alike (h : t.Alike t') : goal.productOp? t' = goal.productOp? t := by
  cases goal <;> simp only [Goal.productOp?, Evaluation.productOp?_alike h]

theorem Goal.sumOp?_alike (h : t.Alike t') : goal.sumOp? t' = goal.sumOp? t := by
  cases goal <;> simp only [Goal.sumOp?, Evaluation.sumOp?_alike h]

end Tokens

/-- Queries or parentheses that are nested too deeply are the same error wherever that is. -/
theorem evaluationFailure_alike {f f' : Failure} (h : f.Alike P own f') :
    (evaluationFailure f).Alike P own (evaluationFailure f') := by
  cases h with
  | placed h => exact .placed h
  | unplaced => exact .unplaced
  | own h => exact .own h
  | fault =>
    unfold evaluationFailure
    dsimp only
    split
    · exact .unplaced
    · exact .fault

theorem Goal.inside_alike {frames frames' : List Frame}
    (h : List.Forall₂ (Frame.Alike P) frames frames') :
    goal.inside frames' = goal.inside frames := by
  cases h <;> rfl

theorem Opener.breach_alike {opener opener' : Opener} (h : opener.Alike P opener') :
    opener'.breach = opener.breach := by
  cases h <;> rfl

theorem State.atEnd_alike {s s' : State} (h : s.Alike P s') :
    ResultAlike P own (s.atEnd goal) (s'.atEnd goal) := by
  cases h with
  | operand h => exact .failure .fault
  | argument hf h => exact .failure .fault
  | value h =>
    cases h with
    | cons hframe h => exact .failure .fault
    | nil =>
      cases goal with
      | factor => exact .value
      | _ => exact .failure .fault

variable (hP : ∀ t t', P t t' → t.Alike t')
include hP

theorem numberValue_alike (own : Error → Prop) {t t' : Token} (h : P t t') :
    ResultAlike P own (numberValue t) (numberValue t') := by
  unfold numberValue
  rw [(hP t t' h).text]
  cases Decimal.float? t.text with
  | some x => exact .value
  | none => exact .failure (.placed h)

/-- Functions with the same name have the same values; a name that is not known is an error that is
placed at it. -/
theorem Opener.apply_alike (own : Error → Prop) {opener opener' : Opener}
    (h : opener.Alike P opener') (x : Float) :
    ResultAlike P own (opener.apply x) (opener'.apply x) := by
  cases h with
  | group => exact .value
  | @call f f' h =>
    unfold Opener.apply
    dsimp only
    rw [(hP f f' h).text]
    cases Trig.ofName? f.text with
    | none => exact .failure (.placed h)
    | some trig =>
      dsimp only
      cases trig.ofDegrees x with
      | ok y => exact .value
      | error fault => exact .failure .fault

/-! ### Queries -/

section Query

variable {σ : Type} {R : Resolver σ} {t t' : Token}

theorem queryFailure_alike (h : P t t') (f : Failure) :
    (queryFailure t f).Alike P (fun e => f = .error e) (queryFailure t' f) := by
  cases f with
  | error e => exact .own rfl
  | fault fault =>
    simp only [queryFailure, (hP t t' h).text]
    split
    · exact .placed h
    · exact .fault

/-- The same answer is the same number, or fails alike. -/
theorem answerValue_alike (h : P t t') (answer : Except Failure Value) :
    ResultAlike P (fun e => answer = .error (.error e)) (answerValue t answer)
      (answerValue t' answer) := by
  unfold answerValue
  cases hr : answer.bind fun value => value.toFloat.mapError Failure.fault with
  | ok x => exact .value
  | error f =>
    refine .failure ((queryFailure_alike hP h f).mono ?_)
    -- an answer that is no number is a fault, so an error is the answer itself
    rintro e rfl
    rcases bind_eq_error.mp hr with hanswer | ⟨value, -, hvalue⟩
    · exact hanswer
    · obtain ⟨fault, -, hfault⟩ := mapError_eq_error.mp hvalue
      cases hfault

/-- The same is queried, and what is left behind is the same. -/
theorem query_alike (h : P t t') (log : Transcript σ) :
    ResultAlike P (fun e => (R.resolve log.state t.text).answer = .error (.error e))
        (log.query R t).1 (log.query R t').1 ∧
      (log.query R t').2 = (log.query R t).2 := by
  have hanswer := answerValue_alike hP h (R.resolve log.state t.text).answer
  constructor
  · rw [fst_query, fst_query, (hP t t' h).text]
    exact hanswer
  · unfold Transcript.query
    dsimp only
    rw [(hP t t' h).text]
    cases hr : answerValue t (R.resolve log.state t.text).answer with
    | ok x => rw [hanswer.eq_ok hr]
    | error f =>
      obtain ⟨f', hr', -⟩ := hanswer.eq_error hr
      rw [hr']

end Query

namespace State

variable {s s' next : State} {t t' : Token}

theorem reads_alike (hs : s.Alike P s') (ht : P t t') (h : s.Reads limit goal t next) :
    ∃ next', s'.Reads limit goal t' next' ∧ next.Alike P next' := by
  have hk := (hP t t' ht).kind
  cases h with
  | number h hx hy =>
    obtain ⟨hs⟩ := hs
    have hx' := (numberValue_alike hP (fun _ => False) ht).eq_ok hx
    exact ⟨_, .number (hk.trans h) hx' hy, .value hs⟩
  | name h =>
    obtain ⟨hs⟩ := hs
    exact ⟨_, .name (hk.trans h), .argument ht hs⟩
  | group h room =>
    obtain ⟨hs⟩ := hs
    exact ⟨_, .group (hk.trans h) (hs.length_eq ▸ room), .operand (.cons (.mk .group) hs)⟩
  | call h room =>
    cases hs with
    | argument hf hs =>
      exact ⟨_, .call (hk.trans h) (hs.length_eq ▸ room), .operand (.cons (.mk (.call hf)) hs)⟩
  | product h =>
    cases hs with
    | value hs =>
      rw [← Goal.inside_alike hs, ← Goal.productOp?_alike (hP t t' ht)] at h
      exact ⟨_, .product h, .operand hs⟩
  | sum h =>
    cases hs with
    | value hs =>
      rw [← Goal.inside_alike hs, ← Goal.sumOp?_alike (hP t t' ht)] at h
      exact ⟨_, .sum h, .operand hs⟩
  | close h hy hz =>
    cases hs with
    | value hs =>
      cases hs with
      | cons hframe hs =>
        obtain ⟨hopener⟩ := hframe
        have hy' := (Opener.apply_alike hP (fun _ => False) hopener _).eq_ok hy
        exact ⟨_, .close (hk.trans h) hy' hz, .value hs⟩

/-- Evaluations fail with tokens alike, and nothing of that comes from a resolver. -/
theorem fails_alike {e : Failure} (hs : s.Alike P s') (ht : P t t') (h : s.Fails limit t e) :
    ∃ e', s'.Fails limit t' e' ∧ e.Alike P own e' := by
  have hk := (hP t t' ht).kind
  cases h with
  | number h hx =>
    obtain ⟨hs⟩ := hs
    obtain ⟨e', hx', he⟩ := (numberValue_alike hP own ht).eq_error hx
    exact ⟨e', .number (hk.trans h) hx', he⟩
  | factor h hx hy =>
    obtain ⟨hs⟩ := hs
    have hx' := (numberValue_alike hP own ht).eq_ok hx
    refine ⟨e, .factor (hk.trans h) hx' hy, ?_⟩
    rw [term_eq_error hy]
    exact .unplaced
  | group h full =>
    obtain ⟨hs⟩ := hs
    exact ⟨_, .group (hk.trans h) (hs.length_eq ▸ full), .fault⟩
  | call h full =>
    cases hs with
    | argument hf hs => exact ⟨_, .call (hk.trans h) (hs.length_eq ▸ full), .fault⟩
  | apply h hy =>
    cases hs with
    | value hs =>
      cases hs with
      | cons hframe hs =>
        obtain ⟨hopener⟩ := hframe
        obtain ⟨e', hy', he⟩ := (Opener.apply_alike hP own hopener _).eq_error hy
        exact ⟨e', .apply (hk.trans h) hy', he⟩
  | close h hy hz =>
    cases hs with
    | value hs =>
      cases hs with
      | cons hframe hs =>
        obtain ⟨hopener⟩ := hframe
        have hy' := (Opener.apply_alike hP own hopener _).eq_ok hy
        refine ⟨e, .close (hk.trans h) hy' hz, ?_⟩
        rw [term_eq_error hz]
        exact .unplaced

theorem refuses_alike {breach : Error.Breach} (hs : s.Alike P s') (ht : P t t')
    (h : s.Refuses goal t breach) : s'.Refuses goal t' breach := by
  have hk := (hP t t' ht).kind
  have hp := productOp?_alike (hP t t' ht)
  have hq := sumOp?_alike (hP t t' ht)
  cases h with
  | operand h =>
    obtain ⟨hs⟩ := hs
    rw [← (hP t t' ht).text]
    exact .operand (by rwa [hk])
  | argument h =>
    cases hs with
    | argument hf hs => exact .argument (by rwa [hk])
  | trailing hg h hnp hns =>
    cases hs with
    | value hs =>
      cases hs
      rw [← (hP t t' ht).text]
      exact .trailing hg (by rwa [hk]) (hp.trans hnp) (hq.trans hns)
  | unclosed h hnp hns =>
    cases hs with
    | value hs =>
      cases hs with
      | cons hframe hs =>
        obtain ⟨hopener⟩ := hframe
        dsimp only
        rw [← Opener.breach_alike hopener]
        exact Refuses.unclosed (by rwa [hk]) (hp.trans hnp) (hq.trans hns)

end State

namespace Progress

variable {σ : Type} {R : Resolver σ} {p p' q : Progress σ}

theorem step_alike (h : p.Alike P p') (hstep : Step R limit goal p q) :
    ∃ q', Step R limit goal p' q' ∧ q.Alike P q' := by
  obtain ⟨s', cursor', log', rest'⟩ := p'
  obtain ⟨hs, rfl, rfl, hrest⟩ := h
  cases hstep with
  | read h =>
    rcases hrest with - | ⟨ht, hrest⟩
    obtain ⟨next', h', hnext⟩ := State.reads_alike hP hs ht h
    exact ⟨_, .read h', hnext, rfl, rfl, hrest⟩
  | answer h hx hy =>
    rcases hrest with - | ⟨ht, hrest⟩
    obtain ⟨hs⟩ := hs
    obtain ⟨hanswer, hlog⟩ := query_alike hP (R := R) ht _
    exact ⟨_, .answer ((hP _ _ ht).kind.trans h) (hanswer.eq_ok hx) hy, .value hs, rfl, hlog, hrest⟩

/-- As long as tokens are read, what has been read stays alike. -/
theorem steps_alike (h : p.Alike P p') (hsteps : Steps R limit goal p q) :
    ∃ q', Steps R limit goal p' q' ∧ q.Alike P q' := by
  induction hsteps with
  | refl => exact ⟨p', .refl, h⟩
  | tail _ hstep ih =>
    obtain ⟨r', hsteps', hr⟩ := ih
    obtain ⟨q', hstep', hq⟩ := step_alike hP hr hstep
    exact ⟨q', hsteps'.tail hstep', hq⟩

omit hP in
/-- A variable without a value is the last one that is queried. -/
theorem queried_of_unanswered {pending : Pending} {frames : List Frame} {cursor : Nat}
    {log : Transcript σ} {t : Token} {ts : List Token} {f : Failure} (h : t.kind = .variable)
    (hf : (log.query R t).1 = .error f) :
    queried R limit goal ⟨⟨.operand, pending, frames⟩, cursor, log, t :: ts⟩ = [t.text] := by
  unfold queried
  rw [outcome_eq_of_ends (.unanswered h hf)]
  dsimp only
  rw [Nat.add_sub_cancel_left, ← variableNames_of_variable h]
  rfl

theorem ends_alike {o : Outcome σ} (h : p.Alike P p') (hends : Ends R limit goal p o) :
    ∃ o', Ends R limit goal p' o' ∧
      o.Alike P (R.AnswersWith p.log.state (p.queried R limit goal)) o' := by
  obtain ⟨s', cursor', log', rest'⟩ := p'
  obtain ⟨hs, rfl, rfl, hrest⟩ := h
  cases hends with
  | exhausted =>
    rcases hrest
    exact ⟨_, .exhausted, State.atEnd_alike hs, rfl, rfl⟩
  | @unanswered pending frames _ log t ts e h he =>
    rcases hrest with - | ⟨ht, hrest⟩
    obtain ⟨hs⟩ := hs
    obtain ⟨hanswer, hlog⟩ := query_alike hP (R := R) ht _
    obtain ⟨e', he', halike⟩ := hanswer.eq_error he
    refine ⟨_, .unanswered ((hP _ _ ht).kind.trans h) he', .failure (halike.mono ?_), rfl, hlog⟩
    -- an error of the resolver's own is the answer to the only query that is left
    intro e hown
    refine ⟨⟨log.state, t.text, R.resolve log.state t.text⟩, ?_, hown⟩
    rw [queried_of_unanswered h he]
    exact List.mem_singleton_self _
  | unfit h hx he =>
    rcases hrest with - | ⟨ht, hrest⟩
    obtain ⟨hs⟩ := hs
    obtain ⟨hanswer, hlog⟩ := query_alike hP (R := R) ht _
    refine ⟨_, .unfit ((hP _ _ ht).kind.trans h) (hanswer.eq_ok hx) he, ?_, rfl, hlog⟩
    rw [State.term_eq_error he]
    exact .failure .unplaced
  | fail h =>
    rcases hrest with - | ⟨ht, hrest⟩
    obtain ⟨e', h', he⟩ := State.fails_alike hP hs ht h
    exact ⟨_, .fail h', .failure he, rfl, rfl⟩
  | refuse h =>
    rcases hrest with - | ⟨ht, hrest⟩
    exact ⟨_, .refuse (State.refuses_alike hP hs ht h), .failure (.placed ht), rfl, rfl⟩
  | stop hp hq hw =>
    rcases hrest with - | ⟨ht, hrest⟩
    cases hs with
    | value hs =>
      cases hs
      have hk := hP _ _ ht
      exact ⟨_, .stop ((Goal.productOp?_alike hk).trans hp) ((Goal.sumOp?_alike hk).trans hq)
        fun hg => hk.kind.trans (hw hg), .value, rfl, rfl⟩

omit hP in
/-- The queries from some point on are among all queries. -/
theorem answersWith_of_steps {e : Error} (h : Steps R limit goal p q)
    (he : R.AnswersWith q.log.state (q.queried R limit goal) e) :
    R.AnswersWith p.log.state (p.queried R limit goal) e := by
  obtain ⟨x, hx, hanswer⟩ := he
  refine ⟨x, ?_, hanswer⟩
  rw [queried_of_steps h, Resolver.exchanges_append, after_between h]
  exact List.mem_append_right _ hx

/-- Evaluations that have read the same, and have the same before them, end alike. -/
theorem outcome_alike (h : p.Alike P p') :
    (p.outcome R limit goal).Alike P (R.AnswersWith p.log.state (p.queried R limit goal))
      (p'.outcome R limit goal) := by
  obtain ⟨q, hsteps, hends⟩ := @exists_steps_ends _ R limit goal p
  obtain ⟨q', hsteps', hq⟩ := steps_alike hP h hsteps
  obtain ⟨o', hends', ho⟩ := ends_alike hP hq hends
  rw [outcome_eq_of_steps hsteps', outcome_eq_of_ends hends']
  exact ⟨ho.result.mono fun _ => answersWith_of_steps hsteps, ho.cursor, ho.log⟩

end Progress

/-! ### Whole evaluations -/

omit hP in
/-- Whether the last token is the end is a matter of kinds. -/
theorem isTerminated_eq (tokens : List Token) :
    isTerminated tokens = ((tokens.map Token.kind).getLast? == some .eof) := by
  unfold isTerminated
  rw [List.getLast?_map]
  cases tokens.getLast? with
  | none => rfl
  | some t => cases h : t.kind <;> simp [h]

theorem isTerminated_alike {tokens tokens' : List Token} (h : List.Forall₂ P tokens tokens') :
    isTerminated tokens' = isTerminated tokens := by
  have hkinds : tokens'.map Token.kind = tokens.map Token.kind := by
    induction h with
    | nil => rfl
    | cons ht _ ih => rw [List.map_cons, List.map_cons, ih, (hP _ _ ht).kind]
  rw [isTerminated_eq, isTerminated_eq, hkinds]

omit hP in
theorem reported_alike {σ : Type} {o o' : Outcome σ} (h : o.Alike P own o') (count : Nat) :
    (o.reported count).Alike P own (o'.reported count) := by
  obtain ⟨result, cursor, log⟩ := o
  obtain ⟨result', cursor', log'⟩ := o'
  obtain ⟨hresult, rfl, rfl⟩ := h
  cases hresult with
  | value => exact ⟨.value, rfl, rfl⟩
  | failure h => exact ⟨.failure (evaluationFailure_alike h), rfl, rfl⟩

/-- **Positions do not matter**: tokens of the same kinds and spellings are evaluated with the same
queries, the same state of the resolver behind them and the same events, and they have the same
value or fail alike.  The errors that stay where they are placed are those that the resolver has
answered with. -/
theorem evaluate_alike {σ : Type} (R : Resolver σ) (limit : Nat) (state : σ)
    {tokens tokens' : List Token} (h : List.Forall₂ P tokens tokens') :
    (evaluate R limit state tokens).Alike P
      (R.AnswersWith state (evaluate R limit state tokens).log.queries.toList)
      (evaluate R limit state tokens') := by
  have hend' := isTerminated_alike hP h
  cases hend : isTerminated tokens with
  | false =>
    unfold evaluate
    rw [hend', hend]
    exact ⟨.failure .fault, rfl, rfl⟩
  | true =>
    rw [hend] at hend'
    have hstart : (Progress.start state tokens).Alike P (Progress.start state tokens') :=
      ⟨.operand .nil, rfl, rfl, h⟩
    have hout := @Progress.outcome_alike P limit .whole hP _ R _ _ hstart
    rw [Progress.evaluate_of_isTerminated state hend, Progress.evaluate_of_isTerminated state hend',
      queries_reported, Progress.queries_outcome, ← h.length_eq]
    exact reported_alike hout tokens.length

end Evaluation

end Calculator
