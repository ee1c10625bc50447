import Calculator.Proofs.Calculation.Queries
import Calculator.Proofs.Resolver.Table

/-!
# Bindings that a calculation does not see

A calculation over a table looks at the bindings of the variables of its text and at no others: a
name that is queried is that of a variable (`hasVariable_of_mem_queries`), the name of a function
never is (`not_hasVariable_of_mem_functionNames`), and tables that agree on the queries lead to the
same outcome (`calculateWithin_of_agree`).  Together: `calculateWithin_agree`.
-/

namespace Calculator

open Evaluation

/-- Whether a text has a variable of the given name. -/
def HasVariable (source name : String) : Prop :=
  ∃ tokens, Token.ofText source = .ok tokens ∧ ∃ t ∈ tokens, t.kind = .variable ∧ t.text = name

/-- The same outcome with the resolver in another state. -/
def Evaluation.Outcome.withState {σ τ : Type} (o : Outcome σ) (state : τ) : Outcome τ :=
  ⟨o.result, o.cursor, ⟨state, o.log.queries, o.log.events⟩⟩

theorem Evaluation.Outcome.eq_withState {σ τ : Type} {o : Outcome σ} {o' : Outcome τ}
    (hresult : o'.result = o.result) (hcursor : o'.cursor = o.cursor)
    (hqueries : o'.log.queries = o.log.queries) (hevents : o'.log.events = o.log.events) :
    o' = o.withState o'.log.state := by
  unfold withState
  rw [← hresult, ← hcursor, ← hqueries, ← hevents]

section Variables

variable {σ : Type} {R : Resolver σ} {limit : Nat} {state : σ} {source name : String}

/-! ### The names of variables -/

theorem hasVariable_iff {tokens : List Token} (h : Token.ofText source = .ok tokens) :
    HasVariable source name ↔ name ∈ variableNames tokens := by
  unfold HasVariable variableNames
  simp [h, and_assoc]

/-- Only variables of the text are queried. -/
theorem hasVariable_of_mem_queries
    (h : name ∈ (calculateWithin R limit state source).log.queries.toList) :
    HasVariable source name := by
  cases hlex : Token.ofText source with
  | error e =>
    rw [calculateWithin, hlex] at h
    cases h
  | ok tokens =>
    rw [hasVariable_iff hlex]
    rw [log_calculateWithin hlex, queries_evaluate] at h
    generalize (evaluate R limit state tokens).cursor = k at h
    -- the tokens before the cursor are tokens of the text
    have hsplit : variableNames tokens =
        variableNames (tokens.take k) ++ variableNames (tokens.drop k) := by
      rw [← variableNames_append, List.take_append_drop]
    rw [hsplit]
    exact List.mem_append_left _ h

/-- The name of a function is no variable. -/
theorem not_hasVariable_of_mem_functionNames (h : name ∈ Token.functionNames) :
    ¬ HasVariable source name := by
  rintro ⟨tokens, hlex, t, ht, hkind, rfl⟩
  obtain ⟨body, hcovers, rfl⟩ := Token.ofText_eq_ok_iff_covers.mp hlex
  rcases List.mem_append.mp ht with hbody | hlast
  · have hshaped := (hcovers.fits t hbody).2.shaped
    unfold Token.IsShaped at hshaped
    rw [hkind] at hshaped
    exact hshaped.2 h
  · rw [List.mem_singleton.mp hlast] at hkind
    cases hkind

/-! ### Outcomes -/

/-- What a calculation reports is read off its queries and its result. -/
theorem events_calculateWithin {tokens : List Token} (h : Token.ofText source = .ok tokens) :
    let outcome := calculateWithin R limit state source
    outcome.log.events.toList =
      (R.exchanges state outcome.log.queries.toList).flatMap Exchange.events ++
        (outcome.result.toOption.map (.evaluated tokens.length)).toList := by
  intro outcome
  have hevents := events_evaluate R limit state tokens
  have hresult : outcome.result.toOption = (evaluate R limit state tokens).result.toOption := by
    rw [show outcome.result = _ from result_calculateWithin h]
    cases (evaluate R limit state tokens).result <;> rfl
  rw [show outcome.log = _ from log_calculateWithin h, hresult]
  exact hevents

end Variables

section Tables

variable {limit : Nat} {source : String} {b b' : Bindings Value}

/-- A calculation leaves a table as it was. -/
theorem state_calculateWithin_table (limit : Nat) (b : Bindings Value) (source : String) :
    (calculateWithin Resolver.table limit b source).log.state = b := by
  rw [state_calculateWithin, Resolver.after_table]

/-- Tables that agree on the names that are queried lead to the same outcome. -/
theorem calculateWithin_of_agree
    (h : ∀ name ∈ (calculateWithin Resolver.table limit b source).log.queries.toList,
      b'.get? name = b.get? name) :
    calculateWithin Resolver.table limit b' source =
      (calculateWithin Resolver.table limit b source).withState b' := by
  obtain ⟨hresult, hcursor, hqueries⟩ :=
    calculateWithin_congr Resolver.table b' (Resolver.answers_table_congr h)
  have hevents : (calculateWithin Resolver.table limit b' source).log.events =
      (calculateWithin Resolver.table limit b source).log.events := by
    cases hlex : Token.ofText source with
    | error e =>
      rw [calculateWithin, calculateWithin, hlex]
    | ok tokens =>
      apply Array.toList_inj.mp
      rw [events_calculateWithin hlex, events_calculateWithin hlex, hqueries, hresult,
        Resolver.events_table_congr h]
  have hsame := Outcome.eq_withState hresult hcursor hqueries hevents
  rwa [state_calculateWithin_table] at hsame

/-- **Other bindings are not seen**: if two tables agree on the variables of a text, the calculation
has the same outcome with both, makes the same queries and reports the same, and leaves both as they
were.  All that is queried are variables of the text, and these are never named like functions; so
whatever becomes of the binding of any other name makes no difference. -/
theorem calculateWithin_agree (limit : Nat) (source : String) (b b' : Bindings Value)
    (h : ∀ name, HasVariable source name → b'.get? name = b.get? name) :
    let outcome := calculateWithin Resolver.table limit b source
    outcome.log.state = b ∧
      calculateWithin Resolver.table limit b' source = outcome.withState b' ∧
      (∀ name ∈ outcome.log.queries.toList, HasVariable source name) ∧
      (∀ name ∈ Token.functionNames, ¬ HasVariable source name) ∧
      ∀ name, ¬ HasVariable source name → ∀ c : Bindings Value,
        (∀ other, other ≠ name → c.get? other = b.get? other) →
          calculateWithin Resolver.table limit c source = outcome.withState c := by
  intro outcome
  have hqueries : ∀ name ∈ outcome.log.queries.toList, HasVariable source name :=
    fun name hname => hasVariable_of_mem_queries hname
  refine ⟨state_calculateWithin_table limit b source, ?_, hqueries, ?_, ?_⟩
  · exact calculateWithin_of_agree fun name hname => h name (hqueries name hname)
  · exact fun name hname => not_hasVariable_of_mem_functionNames hname
  · intro name hname c hc
    apply calculateWithin_of_agree
    intro other hother
    -- the queries are variables, so the name that was changed is not among them
    have hne : other ≠ name := by
      rintro rfl
      exact hname (hqueries other hother)
    exact hc other hne

/-- Two tables that agree on `x` and `y` and do not bind `z`, whatever else they bind. -/
def seenAlike : Bindings Value × Bindings Value :=
  (Bindings.ofList [("x", .float 90.0), ("y", .text "2"), ("a", .float 1.0)],
    Bindings.ofList [("sin", .text "none"), ("y", .text "2"), ("b", .null), ("x", .float 90.0)])

/-- `sin(x)/y+z` fails in the same way with both of them. -/
theorem calculateWithin_agree_unbound :
    let outcome := calculateWithin Resolver.table 1 seenAlike.1 "sin(x)/y+z"
    (∀ name, HasVariable "sin(x)/y+z" name → seenAlike.2.get? name = seenAlike.1.get? name) ∧
      outcome.result = .error (.unresolved "z" .undefined) ∧
      calculateWithin Resolver.table 1 seenAlike.2 "sin(x)/y+z" =
        outcome.withState seenAlike.2 := by
  intro outcome
  have hnames : (Token.ofText "sin(x)/y+z").map variableNames = .ok ["x", "y", "z"] := by
    decide +kernel
  have h : ∀ name, HasVariable "sin(x)/y+z" name →
      seenAlike.2.get? name = seenAlike.1.get? name := by
    rintro name ⟨tokens, hlex, hmem⟩
    rw [hlex] at hnames
    have hname : name ∈ ["x", "y", "z"] := by
      rw [← Except.ok.inj hnames]
      exact (hasVariable_iff hlex).mp ⟨tokens, hlex, hmem⟩
    simp only [List.mem_cons, List.not_mem_nil, or_false] at hname
    rcases hname with rfl | rfl | rfl <;> rfl
  have hresult : outcome.result = .error (.unresolved "z" .undefined) := by decide +kernel
  exact ⟨h, hresult, (calculateWithin_agree 1 "sin(x)/y+z" seenAlike.1 seenAlike.2 h).2.1⟩

end Tables

end Calculator
