import Calculator.Grammar.Value
import Calculator.Proofs.Evaluation.Derivation
import Calculator.Proofs.Evaluation.Query
import Calculator.Proofs.Grammar.Nesting

/-!
# Evaluations with a table

A table answers a query in the same way whatever was queried before.  So with a table the meaning of
a tree is its value (`gives_expression`), and an evaluation has a value exactly if its tokens up to
the end are those of a tree that has the value (`exists_value_of_ok`, `result_of_value`).
-/

namespace Calculator

namespace Evaluation

open Grammar

variable {bindings : Bindings Value}

/-- The value of a variable's token in a table. -/
def tableValue (bindings : Bindings Value) (t : Token) : Except Failure Float :=
  answerValue t (Resolver.table.resolve bindings t.text).answer

/-! ### Meanings are values -/

/-- Whether a meaning is the given result and leaves the table as it is. -/
structure Gives (bindings : Bindings Value) (m : Meaning (Bindings Value))
    (r : Except Failure Float) : Prop where
  result : m.1 = r
  state : m.2.state = bindings

/-- What goes on with a value finds the table as it was. -/
theorem Gives.andThen {m : Meaning (Bindings Value)} {r : Except Failure Float}
    {f : Float → Transcript (Bindings Value) → Meaning (Bindings Value)}
    {g : Float → Except Failure Float} (h : Gives bindings m r)
    (hf : ∀ x log, log.state = bindings → Gives bindings (f x log) (g x)) :
    Gives bindings (Meaning.andThen m f) (r.bind g) := by
  obtain ⟨result, log⟩ := m
  obtain ⟨rfl, hstate⟩ := h
  cases result with
  | error e => exact ⟨rfl, hstate⟩
  | ok x => exact hf x log hstate

/-- What asks nothing leaves the table as it is. -/
theorem gives_result {log : Transcript (Bindings Value)} (h : log.state = bindings)
    (r : Except Failure Float) : Gives bindings (r, log) r :=
  ⟨rfl, h⟩

theorem gives_query {log : Transcript (Bindings Value)} {t : Token} (h : log.state = bindings) :
    Gives bindings (log.query Resolver.table t) (tableValue bindings t) := by
  subst h
  refine ⟨?_, state_query_table⟩
  rw [fst_query, tableValue]

mutual

theorem gives_factor : ∀ (a : Factor) {log : Transcript (Bindings Value)}, log.state = bindings →
    Gives bindings (a.meaning Resolver.table log) (a.value (tableValue bindings))
  | .number .., _, h => by
    rw [Factor.meaning, Factor.value]
    exact gives_result h _
  | .variable .., _, h => by
    rw [Factor.meaning, Factor.value]
    exact gives_query h
  | .call _ _ argument .., _, h => by
    rw [Factor.meaning, Factor.value]
    exact (gives_expression argument h).andThen fun _ _ h => gives_result h _
  | .group _ inner .., _, h => by
    rw [Factor.meaning, Factor.value]
    exact gives_expression inner h

theorem gives_term : ∀ (a : Term) {log : Transcript (Bindings Value)}, log.state = bindings →
    Gives bindings (a.meaning Resolver.table log) (a.value (tableValue bindings))
  | .single a, _, h => by
    rw [Term.meaning, Term.value]
    exact gives_factor a h
  | .joined left _ right _, _, h => by
    rw [Term.meaning, Term.value]
    exact (gives_term left h).andThen fun _ _ h =>
      (gives_factor right h).andThen fun _ _ h => gives_result h _

theorem gives_expression :
    ∀ (a : Expression) {log : Transcript (Bindings Value)}, log.state = bindings →
      Gives bindings (a.meaning Resolver.table log) (a.value (tableValue bindings))
  | .single a, _, h => by
    rw [Expression.meaning, Expression.value]
    exact gives_term a h
  | .joined left _ right _, _, h => by
    rw [Expression.meaning, Expression.value]
    exact (gives_expression left h).andThen fun _ _ h =>
      (gives_term right h).andThen fun _ _ h => gives_result h _

end

/-! ### Evaluations -/

variable {limit : Nat} {tokens : List Token} {x : Float}

/-- An evaluation that has a value has read a tree of that value. -/
theorem exists_value_of_ok (h : (evaluate Resolver.table limit bindings tokens).result = .ok x) :
    ∃ (e : Expression) (pos : Nat) (rest : List Token),
      tokens = e.tokens ++ Token.atEnd pos :: rest ∧ e.value (tableValue bindings) = .ok x := by
  obtain ⟨e, pos, rest, htokens, hmeaning⟩ := exists_tree_of_ok h
  have hvalue := gives_expression e (rfl : ({ state := bindings } : Transcript _).state = bindings)
  exact ⟨e, pos, rest, htokens, hvalue.result ▸ hmeaning⟩

/-- If there is no end among the tokens before the last one, all of these are the tree. -/
theorem exists_value_of_body {body : List Token} {pos : Nat} (hbody : ∀ t ∈ body, t.kind ≠ .eof)
    (h : (evaluate Resolver.table limit bindings (body ++ [Token.atEnd pos])).result = .ok x) :
    ∃ e : Expression, e.tokens = body ∧ e.value (tableValue bindings) = .ok x := by
  obtain ⟨e, pos', rest, htokens, hvalue⟩ := exists_value_of_ok h
  rcases List.eq_nil_or_concat rest with rfl | ⟨rest, last, rfl⟩
  · exact ⟨e, (List.append_inj_left' htokens rfl).symm, hvalue⟩
  · -- otherwise the end behind the tree would be one of the tokens before the last one
    have hsplit : body = e.tokens ++ Token.atEnd pos' :: rest := by
      rw [List.concat_eq_append, ← List.cons_append, ← List.append_assoc] at htokens
      exact List.append_inj_left' htokens rfl
    have hmem : Token.atEnd pos' ∈ body := by
      rw [hsplit]
      exact List.mem_append_right _ (List.mem_cons_self ..)
    exact absurd rfl (hbody _ hmem)

/-- The tokens of a tree that is nested no deeper than allowed are evaluated to its value. -/
theorem result_of_value {e : Expression} {pos : Nat} {rest : List Token}
    (hnested : NestedWithin limit (e.tokens ++ Token.atEnd pos :: rest))
    (hend : isTerminated (e.tokens ++ Token.atEnd pos :: rest) = true) :
    (evaluate Resolver.table limit bindings (e.tokens ++ Token.atEnd pos :: rest)).result =
      (e.value (tableValue bindings)).mapError evaluationFailure := by
  rw [result_of_tree (depth_le_of_nestedWithin hnested) hend,
    (gives_expression e rfl).result]

end Evaluation

end Calculator
