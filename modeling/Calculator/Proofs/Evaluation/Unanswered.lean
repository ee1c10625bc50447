import Calculator.Proofs.Evaluation.Replay
import Calculator.Proofs.Grammar.Draft
import Calculator.Resolver.Script

/-!
# Queries without a number

The first query that gives no number ends the evaluation (`evaluate_unanswered`).  What the
evaluation fails with depends on the kind of the failure only.  Kinds of faults are special cases of
one another (`Fault.Kind.Is`), and the faults that are about the value of the variable are those of
three families (`Fault.Kind.isAboutValue_iff`).
-/

namespace Calculator

/-! ### Families of faults -/

namespace Fault.Kind

/-- The next more general kind. -/
def parent : Kind → Option Kind
  | missingKey | badIndex => some failedLookup
  | badBytes => some badValue
  | recursion => some runtime
  | failedLookup | badType | badValue | overflow | refused | runtime | endOfInput => none

/-- Whether a kind is another kind or a special case of it. -/
def Is (kind family : Kind) : Prop :=
  kind = family ∨ kind.parent = some family

/-- The faults that are about a value are failed look-ups, values of the wrong type and values that
are not acceptable. -/
theorem isAboutValue_iff {kind : Kind} :
    kind.isAboutValue = true ↔
      kind.Is .failedLookup ∨ kind.Is .badType ∨ kind.Is .badValue := by
  cases kind <;> simp [isAboutValue, Is, parent]

theorem not_isAboutValue_recursion : ¬ (isAboutValue .recursion = true) := by
  simp [isAboutValue]

end Fault.Kind

namespace Evaluation

variable {σ : Type} {R : Resolver σ} {limit : Nat} {state : σ} {tokens : List Token}

/-! ### The failure of the evaluation -/

theorem evaluationFailure_queryFailure_of_isAboutValue {t : Token} {fault : Fault}
    (h : fault.kind.isAboutValue = true) :
    evaluationFailure (queryFailure t (.fault fault)) =
      .error
        { cause := .unresolvedVariable t.text (.failed fault.message), pos := some t.pos } := by
  rw [queryFailure, if_pos h, evaluationFailure]

theorem evaluationFailure_queryFailure_of_not_isAboutValue {t : Token} {fault : Fault}
    (h : ¬ fault.kind.isAboutValue = true) :
    evaluationFailure (queryFailure t (.fault fault)) =
      if fault.kind = .recursion then .error { cause := .nestingTooDeep } else .fault fault := by
  rw [queryFailure, if_neg h, evaluationFailure]

/-- **The first query without a number ends the evaluation**: no further query is made, and what the
query failed with decides what the evaluation fails with.  An error stays as it is; a fault about
the value says that the variable of this query cannot be resolved, at its position and for the
fault's own reason; calls nested too deeply count as an expression nested too deeply; and any other
fault stays as it is. -/
theorem evaluate_unanswered {k : Nat} {e : Exchange σ} {f : Failure}
    (he : (R.exchanges state (evaluate R limit state tokens).log.queries.toList)[k]? = some e)
    (hf : e.failure? = some f) :
    let outcome := evaluate R limit state tokens
    outcome.log.queries.size = k + 1 ∧
      (∀ d ∈ (R.exchanges state outcome.log.queries.toList).take k, d.failure? = none) ∧
      ∃ t, (tokens.filter fun t => t.kind = .variable)[k]? = some t ∧ t.text = e.name ∧
        (∀ error, f = .error error → outcome.result = .error (.error error)) ∧
        (∀ fault, f = .fault fault →
          let aboutValue := fault.kind.Is .failedLookup ∨ fault.kind.Is .badType ∨
            fault.kind.Is .badValue
          (aboutValue → ∃ error, outcome.result = .error (.error error) ∧
            error.cause = .unresolvedVariable t.text (.failed fault.message) ∧
            error.message = "Cannot resolve variable " ++ t.text ++ ": " ++ fault.message ∧
            error.pos = some t.pos ∧ error.excerpt = none) ∧
          (fault.kind = .recursion →
            outcome.result = .error (.error { cause := .nestingTooDeep })) ∧
          (¬ aboutValue → fault.kind ≠ .recursion → outcome.result = .error (.fault fault))) := by
  intro outcome
  obtain ⟨hsize, hearlier, t, ht, hname, hresult⟩ := result_evaluate_of_getElem?_exchanges he hf
  refine ⟨hsize, hearlier, t, ht, hname, ?_, ?_⟩
  · rintro error rfl
    exact hresult
  · rintro fault rfl aboutValue
    have hkind : fault.kind.isAboutValue = true ↔ aboutValue := Fault.Kind.isAboutValue_iff
    refine ⟨fun habout => ?_, fun hrecursion => ?_, fun habout hrecursion => ?_⟩
    · rw [evaluationFailure_queryFailure_of_isAboutValue (hkind.mpr habout)] at hresult
      exact ⟨_, hresult, rfl, rfl, rfl, rfl⟩
    · have habout : ¬ fault.kind.isAboutValue = true :=
        hrecursion ▸ Fault.Kind.not_isAboutValue_recursion
      rw [evaluationFailure_queryFailure_of_not_isAboutValue habout, if_pos hrecursion] at hresult
      exact hresult
    · rw [evaluationFailure_queryFailure_of_not_isAboutValue (mt hkind.mp habout),
        if_neg hrecursion] at hresult
      exact hresult

/-- The tokens of `x/y+z`. -/
def quotientPlus : List Token :=
  [Grammar.spelled .variable 'x' 0, Grammar.spelled .operator '/' 1,
    Grammar.spelled .variable 'y' 2, Grammar.spelled .operator '+' 3,
    Grammar.spelled .variable 'z' 4, Token.atEnd 5]

/-- A divisor that is a word is no number: it is the last one that is asked for. -/
theorem evaluate_unanswered_quotientPlus :
    let answers : Script := { steps := [.ok (.float 1.0), .ok (.text "two"), .ok (.float 3.0)] }
    let outcome := evaluate Script.resolver 1 answers quotientPlus
    outcome.log.queries.size = 2 ∧ ∃ error, outcome.result = .error (.error error) ∧
      error.message = "Cannot resolve variable y: could not convert string to float: 'two'" ∧
      error.pos = some 2 := by
  intro answers outcome
  have hfault : Value.toFloat (.text "two") = .error (.notANumber "two") := by
    have hword : Decimal.float? "two" = none := by decide +kernel
    rw [Value.toFloat, textToFloat, hword]
  have hqueries : outcome.log.queries.toList = ["x", "y"] := by decide +kernel
  -- the query of `y` finds the answer to `x` played
  let second : Exchange Script :=
    let script := (Script.resolver.resolve answers "x").state
    ⟨script, "y", Script.resolver.resolve script "y"⟩
  have hsecond : (Script.resolver.exchanges answers outcome.log.queries.toList)[1]? =
      some second := by
    rw [hqueries]
    rfl
  have hfailure : second.failure? = some (.fault (.notANumber "two")) :=
    Exchange.failure?_of_toFloat rfl hfault
  obtain ⟨hsize, -, t, ht, -, -, hfailed⟩ := evaluate_unanswered hsecond hfailure
  cases ht
  obtain ⟨error, hresult, -, hmessage, hpos, -⟩ := (hfailed _ rfl).1 (.inr (.inr (.inl rfl)))
  have hwording : error.message =
      "Cannot resolve variable y: could not convert string to float: 'two'" := by
    rw [hmessage]
    decide +kernel
  exact ⟨hsize, error, hresult, hwording, hpos⟩

end Evaluation

end Calculator
