import Calculator.Calculation
import Calculator.Proofs.Evaluation.Query
import Calculator.Proofs.Evaluation.Span
import Calculator.Proofs.Token.Tokenization

/-!
# What a calculation can fail with

When the variables are given by a table of floats, a calculation has a value, or an error about the
expression that is one of a few (`Accounted`), or it applies a function to an infinite angle
(`Applies`), and then only that is its failure (`calculateWithin_table`).

The other failures are ruled out by what an evaluation under way knows.  The end is never read, so
the tokens never come to an end (`rest_ne_nil_of_steps`).  The function names that wait are function
tokens of the expression (`functions_of_steps`), which are names of functions.  The table never
changes (`state_of_steps`), and its values are numbers.
-/

namespace Calculator

/-! ### Tables of floats -/

theorem Bindings.get?_map {α β : Type} (f : α → β) (b : Bindings α) (name : String) :
    (b.map f).get? name = (b.get? name).map f := by
  unfold Bindings.get? Bindings.map
  dsimp only
  induction b.entries with
  | nil => rfl
  | cons entry rest ih =>
    rw [List.map_cons, Bindings.lookup_cons_eq, ih, Bindings.lookup_cons_eq]
    split <;> rfl

namespace Evaluation

section Table

variable {log : Transcript (Bindings Value)} {t : Token} {values : Bindings Float}

/-- A variable has the value that it is bound to. -/
theorem fst_query_table (h : log.state = values.map .float) :
    (log.query Resolver.table t).1 =
      match values.get? t.text with
      | some x => .ok x
      | none => .error (.unresolved t.text .undefined) := by
  rw [fst_query]
  unfold Resolver.table
  dsimp only
  rw [h, Bindings.get?_map]
  cases values.get? t.text <;> rfl

end Table

/-! ### Functions that wait for their arguments -/

/-- The function name that a parenthesis was opened for. -/
def Opener.function? : Opener → Option Token
  | group => none
  | call function => some function

namespace State

/-- The function names that have been read and not been looked up yet. -/
def functions (s : State) : List Token :=
  match s.stage with
  | .argument function => function :: s.frames.filterMap fun frame => frame.opener.function?
  | _ => s.frames.filterMap fun frame => frame.opener.function?

/-- The function and the angle to which it is applied when a token closes its parenthesis. -/
def application? (s : State) (t : Token) : Option (Trig × Float) :=
  match s.stage, s.frames with
  | .value x, ⟨.call function, _⟩ :: _ =>
    if t.kind = .rparen then
      (Trig.ofName? function.text).map fun f => (f, s.pending.expression x)
    else none
  | _, _ => none

variable {s next : State} {limit : Nat} {goal : Goal} {t : Token}

theorem functions_of_reads (h : s.Reads limit goal t next) :
    ∀ f ∈ next.functions, f ∈ s.functions ∨ f = t ∧ t.kind = .function := by
  intro f hf
  cases h with
  | number | group | call | product | sum => exact .inl hf
  | name hk =>
    rcases List.mem_cons.mp hf with rfl | hf
    · exact .inr ⟨rfl, hk⟩
    · exact .inl hf
  | @close _ _ _ _ _ opener outer frames =>
    refine .inl ?_
    show f ∈ (⟨opener, outer⟩ :: frames : List Frame).filterMap fun frame => frame.opener.function?
    rw [List.filterMap_cons]
    split
    · exact hf
    · exact List.mem_cons_of_mem _ hf

end State

namespace Progress

variable {σ : Type} {R : Resolver σ} {limit : Nat} {goal : Goal} {state : σ} {tokens : List Token}
  {p : Progress σ}

/-- Names that wait for their arguments are function tokens of the expression. -/
theorem functions_of_steps (h : Steps R limit goal (start state tokens) p) :
    ∀ f ∈ p.state.functions, f ∈ tokens ∧ f.kind = .function := by
  induction h with
  | refl =>
    intro f hf
    cases hf
  | @tail q r hsteps step ih =>
    intro f hf
    have hrest := rest_of_steps hsteps
    cases step with
    | @read s cursor _ t ts _ h =>
      have hmem : t ∈ tokens.drop cursor := hrest ▸ List.mem_cons_self (a := t) (l := ts)
      rcases State.functions_of_reads h f hf with hold | ⟨rfl, hk⟩
      · exact ih f hold
      · exact ⟨List.mem_of_mem_drop hmem, hk⟩
    | answer h hx hy => exact ih f hf

/-- The end is not read, so there is always a next token. -/
theorem rest_ne_nil_of_steps (hend : isTerminated tokens = true)
    (h : Steps R limit goal (start state tokens) p) : p.rest ≠ [] := by
  obtain ⟨t, ts, ht⟩ := exists_rest_of_steps hend rfl (Nat.zero_le _) h
  rw [ht]
  exact List.cons_ne_nil t ts

/-- A table is the same after all queries. -/
theorem state_of_steps {table : Bindings Value} {p : Progress (Bindings Value)}
    (h : Steps Resolver.table limit goal (start table tokens) p) : p.log.state = table := by
  induction h with
  | refl => rfl
  | tail _ step ih =>
    cases step with
    | read h => exact ih
    | answer h hx hy => exact state_query_table.trans ih

end Progress

/-- Whether the evaluation of tokens applies a function to an angle. -/
def Applies {σ : Type} (R : Resolver σ) (limit : Nat) (state : σ) (tokens : List Token) (f : Trig)
    (angle : Float) : Prop :=
  ∃ p t ts, Progress.Steps R limit .whole (Progress.start state tokens) p ∧ p.rest = t :: ts ∧
    p.state.application? t = some (f, angle)

/-! ### Failures -/

/-- What may be wrong with an expression whose variables have the given values. -/
inductive Accounted (values : Bindings Float) (tokens : List Token) : Error.Cause → Prop
  | malformedExpression {breach} : Accounted values tokens (.malformedExpression breach)
  | malformedNumber {text} : Accounted values tokens (.malformedNumber text)
  | divisionByZero : Accounted values tokens .divisionByZero
  | nestingTooDeep : Accounted values tokens .nestingTooDeep
  /-- A variable of the expression is not bound. -/
  | unresolvedVariable {t want} (mem : t ∈ tokens) (kind : t.kind = .variable)
      (unbound : values.get? t.text = none) :
      Accounted values tokens (.unresolvedVariable t.text want)

theorem application?_eq_some {s : State} {t : Token} {f : Trig} {angle : Float} :
    s.application? t = some (f, angle) ↔
      ∃ x pending function outer frames,
        s = ⟨.value x, pending, ⟨.call function, outer⟩ :: frames⟩ ∧ t.kind = .rparen ∧
          Trig.ofName? function.text = some f ∧ pending.expression x = angle := by
  constructor
  · intro h
    obtain ⟨stage, pending, frames⟩ := s
    unfold State.application? at h
    dsimp only at h
    split at h
    · next x function outer frames =>
      split at h
      · next hk =>
        obtain ⟨g, hg, heq⟩ := Option.map_eq_some_iff.mp h
        cases heq
        exact ⟨_, _, _, _, _, rfl, hk, hg, rfl⟩
      · cases h
    · cases h
  · rintro ⟨x, pending, function, outer, frames, rfl, hk, hf, rfl⟩
    unfold State.application?
    dsimp only
    rw [if_pos hk, hf]
    rfl

/-- Where an evaluation fails although its functions have names, the failure is accounted for, or a
function is applied to an infinite angle. -/
theorem accounted_of_fails {limit : Nat} {s : State} {t : Token} {f : Failure}
    {values : Bindings Float} {tokens : List Token}
    (hnamed : ∀ f ∈ s.functions, (Trig.ofName? f.text).isSome = true) (h : s.Fails limit t f) :
    (∃ e, evaluationFailure f = .error e ∧ Accounted values tokens e.cause) ∨
      f = .fault .infiniteAngle ∧ ∃ g angle, s.application? t = some (g, angle) ∧
        angle.isInf = true := by
  cases h with
  | number hk hx =>
    rw [State.numberValue_eq_error hx]
    exact .inl ⟨_, rfl, .malformedNumber⟩
  | factor hk hx hy =>
    rw [State.term_eq_error hy]
    exact .inl ⟨_, rfl, .divisionByZero⟩
  | group hk full | call hk full => exact .inl ⟨_, rfl, .nestingTooDeep⟩
  | close hk hy hz =>
    rw [State.term_eq_error hz]
    exact .inl ⟨_, rfl, .divisionByZero⟩
  | @apply _ x pending opener outer frames _ hk hy =>
    obtain ⟨function, rfl, ⟨hnone, -⟩ | ⟨⟨g, hg⟩, hinf, rfl⟩⟩ := State.apply_eq_error hy
    -- the name is that of a function, so looking it up does not fail
    · have hsome := hnamed function (List.mem_cons_self ..)
      rw [hnone] at hsome
      cases hsome
    · exact .inr ⟨rfl, g, _, application?_eq_some.mpr ⟨_, _, _, _, _, rfl, hk, hg, rfl⟩, hinf⟩

/-- Where an evaluation with a table of floats ends with a failure, the same holds. -/
theorem accounted_of_ends {limit : Nat} {p : Progress (Bindings Value)}
    {o : Outcome (Bindings Value)} {f : Failure} {values : Bindings Float} {tokens : List Token}
    (hstate : p.log.state = values.map .float)
    (hnamed : ∀ f ∈ p.state.functions, (Trig.ofName? f.text).isSome = true)
    (hmem : ∀ t ∈ p.rest, t ∈ tokens) (hrest : p.rest ≠ [])
    (h : Progress.Ends Resolver.table limit .whole p o) (hf : o.result = .error f) :
    (∃ e, evaluationFailure f = .error e ∧ Accounted values tokens e.cause) ∨
      f = .fault .infiniteAngle ∧ ∃ t ts g angle, p.rest = t :: ts ∧
        p.state.application? t = some (g, angle) ∧ angle.isInf = true := by
  cases h with
  | exhausted => exact absurd rfl hrest
  | @unanswered _ _ _ _ t _ _ hk hx =>
    cases hf
    rw [fst_query_table hstate] at hx
    split at hx
    · cases hx
    · next hget =>
      cases hx
      exact .inl ⟨_, rfl, .unresolvedVariable (hmem t (List.mem_cons_self ..)) hk hget⟩
  | unfit hk hx hy =>
    cases hf
    rw [State.term_eq_error hy]
    exact .inl ⟨_, rfl, .divisionByZero⟩
  | fail hfails =>
    cases hf
    rcases accounted_of_fails hnamed hfails with hacc | ⟨rfl, g, angle, happ, hinf⟩
    · exact .inl hacc
    · exact .inr ⟨rfl, _, _, g, angle, rfl, happ, hinf⟩
  | refuse hr =>
    cases hf
    exact .inl ⟨_, rfl, .malformedExpression⟩
  | stop hp hs hw => cases hf

/-- A function that is applied to an infinite angle makes the evaluation fail. -/
theorem result_of_applies {σ : Type} {R : Resolver σ} {limit : Nat} {state : σ}
    {tokens : List Token} {f : Trig} {angle : Float} (h : Applies R limit state tokens f angle)
    (hinf : angle.isInf = true) :
    ((Progress.start state tokens).outcome R limit .whole).result =
      .error (.fault .infiniteAngle) := by
  obtain ⟨⟨s, cursor, log, rest⟩, t, ts, hsteps, hrest, happ⟩ := h
  cases hrest
  obtain ⟨x, pending, function, outer, frames, rfl, hk, hf, rfl⟩ := application?_eq_some.mp happ
  have hangle : f.ofDegrees (pending.expression x) = .error .infiniteAngle :=
    (Trig.ofDegrees_eq_error_iff f _ _).mpr ⟨rfl, hinf⟩
  have happly : (Opener.call function).apply (pending.expression x) =
      .error (.fault .infiniteAngle) := by
    unfold Opener.apply
    dsimp only
    rw [hf]
    dsimp only
    rw [hangle]
    rfl
  rw [Progress.outcome_eq_of_steps hsteps, Progress.outcome_eq_of_ends (.fail (.apply hk happly))]

/-- The failures of an evaluation with a table of floats. -/
theorem failures_of_evaluate {limit : Nat} {values : Bindings Float} {tokens : List Token}
    (hend : isTerminated tokens = true)
    (hnamed : ∀ t ∈ tokens, t.kind = .function → (Trig.ofName? t.text).isSome = true) :
    let result := (evaluate Resolver.table limit (values.map .float) tokens).result
    (∀ e, result = .error (.error e) → Accounted values tokens e.cause) ∧
      (∀ f, result = .error (.fault f) → f = .infiniteAngle) ∧
      (result = .error (.fault .infiniteAngle) ↔ ∃ g angle,
        Applies Resolver.table limit (values.map .float) tokens g angle ∧ angle.isInf = true) := by
  intro result
  obtain ⟨p, hsteps, hends⟩ := @Progress.exists_steps_ends _ Resolver.table limit .whole
    (Progress.start (values.map .float) tokens)
  have hfunctions : ∀ f ∈ p.state.functions, (Trig.ofName? f.text).isSome = true := by
    intro f hf
    obtain ⟨hmem, hk⟩ := Progress.functions_of_steps hsteps f hf
    exact hnamed f hmem hk
  have hmem : ∀ t ∈ p.rest, t ∈ tokens := by
    intro t ht
    rw [Progress.rest_of_steps hsteps] at ht
    exact List.mem_of_mem_drop ht
  have hresult : result = ((Progress.start (values.map .float) tokens).outcome Resolver.table limit
      .whole).result.mapError evaluationFailure := by
    simp only [result, Progress.evaluate_of_isTerminated _ hend, result_reported]
  -- every failure is accounted for, or it is the fault of an infinite angle
  have hcases : ∀ f, result = .error f →
      (∃ e, f = .error e ∧ Accounted values tokens e.cause) ∨
        f = .fault .infiniteAngle ∧ ∃ g angle,
          Applies Resolver.table limit (values.map .float) tokens g angle ∧
            angle.isInf = true := by
    intro f hf
    obtain ⟨f', hf', rfl⟩ := mapError_eq_error.mp (hresult ▸ hf)
    rcases accounted_of_ends (Progress.state_of_steps hsteps) hfunctions hmem
      (Progress.rest_ne_nil_of_steps hend hsteps) hends hf' with
      hacc | ⟨rfl, t, ts, g, angle, ht, happ, hinf⟩
    · exact .inl hacc
    · exact .inr ⟨rfl, g, angle, ⟨p, t, ts, hsteps, ht, happ⟩, hinf⟩
  refine ⟨fun e he => ?_, fun f hf => ?_, fun h => ?_, ?_⟩
  · rcases hcases _ he with ⟨e', heq, hacc⟩ | ⟨heq, -⟩
    · cases heq
      exact hacc
    · cases heq
  · rcases hcases _ hf with ⟨e', heq, -⟩ | ⟨heq, -⟩
    · cases heq
    · cases heq
      rfl
  · rcases hcases _ h with ⟨e', heq, -⟩ | ⟨-, happ⟩
    · cases heq
    · exact happ
  · rintro ⟨g, angle, happ, hinf⟩
    rw [hresult, result_of_applies happ hinf]
    rfl

/-- A quotient is taken only where the divisor is no zero. -/
theorem divide_eq_ok {x y z : Float} (h : ProductOp.divide.apply x y = .ok z) :
    (y == 0.0) = false ∧ z = x / y := by
  unfold ProductOp.apply at h
  dsimp only at h
  split at h
  · cases h
  · next hy =>
    cases h
    exact ⟨Bool.eq_false_iff.mpr hy, rfl⟩

end Evaluation

open Evaluation

theorem isTerminated_of_ofText {source : String} {ts : List Token}
    (h : Token.ofText source = .ok ts) : isTerminated ts = true := by
  obtain ⟨body, -, rfl⟩ := Token.ofText_eq_ok_iff_covers.mp h
  exact isTerminated_append_atEnd body _

theorem mapError_attachSource_eq_fault {r : Except Failure Float} {source : String} {f : Fault} :
    r.mapError (Failure.attachSource source) = .error (.fault f) ↔ r = .error (.fault f) := by
  rw [mapError_eq_error]
  constructor
  · rintro ⟨e | f', h, hf⟩
    · cases hf
    · cases hf
      exact h
  · intro h
    exact ⟨.fault f, h, rfl⟩

theorem cause_attachSource (e : Error) (source : String) :
    (e.attachSource source).cause = e.cause := by
  unfold Error.attachSource
  split <;> rfl

/-- Only the source is added to what the tokens of a text come to. -/
theorem result_calculateWithin {σ : Type} {R : Resolver σ} {limit : Nat} {state : σ}
    {source : String} {tokens : List Token} (h : Token.ofText source = .ok tokens) :
    (calculateWithin R limit state source).result =
      (evaluate R limit state tokens).result.mapError (Failure.attachSource source) := by
  rw [calculateWithin, h]

/-- **A calculation fails in few ways**: with the variables given by a table of floats, its result
is a float, an error about a character that starts no token, or an error that is accounted for by
the tokens of the text and the variables that the table binds; and there is no fault but the one of
an infinite angle, which is met exactly where a function is applied to an infinite angle.  No
quotient by a zero is ever taken. -/
theorem calculateWithin_table (limit : Nat) (values : Bindings Float) (source : String) :
    let result := (calculateWithin Resolver.table limit (values.map .float) source).result
    (∀ e, result = .error (.error e) →
      (∃ text, e.cause = .unexpectedCharacter text) ∨
        ∃ tokens, Token.ofText source = .ok tokens ∧ Accounted values tokens e.cause) ∧
      (∀ f, result = .error (.fault f) → f = .infiniteAngle) ∧
      (result = .error (.fault .infiniteAngle) ↔
        ∃ tokens f angle, Token.ofText source = .ok tokens ∧
          Applies Resolver.table limit (values.map .float) tokens f angle ∧
            angle.isInf = true) ∧
      ∀ x y z, ProductOp.divide.apply x y = .ok z → (y == 0.0) = false ∧ z = x / y := by
  intro result
  cases hlex : Token.ofText source with
  | error e' =>
    have hresult : result = .error (.error (e'.attachSource source)) := by
      simp only [result, calculateWithin, hlex]
    rw [hresult]
    refine ⟨fun e he => ?_, fun f hf => ?_, ?_, fun x y z => divide_eq_ok⟩
    · cases he
      rw [cause_attachSource]
      exact .inl (Token.exists_of_scan_eq_error hlex)
    · cases hf
    · constructor
      · intro h
        cases h
      · rintro ⟨_, _, _, h, -⟩
        cases h
  | ok tokens =>
    obtain ⟨herror, hfault, hangle⟩ := @failures_of_evaluate limit values tokens
      (isTerminated_of_ofText hlex) fun t => Token.isSome_ofName?_of_mem hlex
    rw [show result = _ from result_calculateWithin hlex]
    refine ⟨fun e he => ?_, fun f hf => ?_, ?_, fun x y z => divide_eq_ok⟩
    · obtain ⟨f, hf, hfe⟩ := mapError_eq_error.mp he
      cases f with
      | fault f => cases hfe
      | error e' =>
        cases hfe
        rw [cause_attachSource]
        exact .inr ⟨tokens, rfl, herror e' hf⟩
    · exact hfault f (mapError_attachSource_eq_fault.mp hf)
    · rw [mapError_attachSource_eq_fault, hangle]
      constructor
      · rintro ⟨f, angle, happ, hinf⟩
        exact ⟨tokens, f, angle, rfl, happ, hinf⟩
      · rintro ⟨_, f, angle, h, happ, hinf⟩
        cases h
        exact ⟨f, angle, happ, hinf⟩

end Calculator
