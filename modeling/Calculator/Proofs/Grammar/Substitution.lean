import Calculator.Grammar.Substitution
import Calculator.Grammar.Value
import Calculator.Proofs.Evaluation.Action

/-!
# Values and tokens under substitution

Putting factors in the place of variables puts their tokens in the place of the variable tokens
(`tokens_substitute`).  A tree in which each variable is replaced by a factor has the value of the
tree in which the variables have the values of those factors (`value_substitute`).
-/

namespace Calculator.Grammar

open Calculator.Evaluation

variable {f : (t : Token) → t.kind = .variable → Factor}

/-! ### Tokens -/

section Tokens

variable {g : Token → List Token}

theorem flatMap_cons_of_ne (hg : ∀ t, t.kind ≠ .variable → g t = [t]) {t : Token}
    (h : t.kind ≠ .variable) (ts : List Token) : (t :: ts).flatMap g = t :: ts.flatMap g := by
  rw [List.flatMap_cons, hg t h, List.singleton_append]

theorem kind_ne_variable_of_sumOp {t : Token} (h : (sumOp? t).isSome) : t.kind ≠ .variable := by
  obtain ⟨op, hop⟩ := Option.isSome_iff_exists.mp h
  simp [kind_of_sumOp? hop]

theorem kind_ne_variable_of_productOp {t : Token} (h : (productOp? t).isSome) :
    t.kind ≠ .variable := by
  obtain ⟨op, hop⟩ := Option.isSome_iff_exists.mp h
  simp [kind_of_productOp? hop]

mutual

theorem tokens_substitute_factor (hf : ∀ t h, (f t h).tokens = g t)
    (hg : ∀ t, t.kind ≠ .variable → g t = [t]) :
    ∀ a : Factor, (a.substitute f).tokens = a.tokens.flatMap g
  | .number t h => (flatMap_cons_of_ne hg (by simp [h]) []).symm
  | .variable t h => by
    rw [Factor.substitute, hf, Factor.tokens, List.flatMap_singleton]
  | .call function opening argument closing h ho hc => by
    have hargument := tokens_substitute hf hg argument
    rw [Factor.substitute, Factor.tokens, Factor.tokens, List.cons_append, List.cons_append,
      List.cons_append, List.cons_append, flatMap_cons_of_ne hg (by simp [h]),
      flatMap_cons_of_ne hg (by simp [ho]), List.flatMap_append, hargument,
      flatMap_cons_of_ne hg (by simp [hc])]
    rfl
  | .group opening inner closing ho hc => by
    have hinner := tokens_substitute hf hg inner
    rw [Factor.substitute, Factor.tokens, Factor.tokens, List.cons_append, List.cons_append,
      flatMap_cons_of_ne hg (by simp [ho]), List.flatMap_append, hinner,
      flatMap_cons_of_ne hg (by simp [hc])]
    rfl

theorem tokens_substitute_term (hf : ∀ t h, (f t h).tokens = g t)
    (hg : ∀ t, t.kind ≠ .variable → g t = [t]) :
    ∀ a : Term, (a.substitute f).tokens = a.tokens.flatMap g
  | .single a => tokens_substitute_factor hf hg a
  | .joined left op right h => by
    have hleft := tokens_substitute_term hf hg left
    have hright := tokens_substitute_factor hf hg right
    rw [Term.substitute, Term.tokens, Term.tokens, List.flatMap_append, hleft,
      flatMap_cons_of_ne hg (kind_ne_variable_of_productOp h), hright]

theorem tokens_substitute (hf : ∀ t h, (f t h).tokens = g t)
    (hg : ∀ t, t.kind ≠ .variable → g t = [t]) :
    ∀ a : Expression, (a.substitute f).tokens = a.tokens.flatMap g
  | .single a => tokens_substitute_term hf hg a
  | .joined left op right h => by
    have hleft := tokens_substitute hf hg left
    have hright := tokens_substitute_term hf hg right
    rw [Expression.substitute, Expression.tokens, Expression.tokens, List.flatMap_append, hleft,
      flatMap_cons_of_ne hg (kind_ne_variable_of_sumOp h), hright]

end

end Tokens

/-! ### Values -/

section Values

variable {look look' : Token → Except Failure Float}

mutual

theorem value_substitute_factor (hf : ∀ t h, (f t h).value look = look' t) :
    ∀ a : Factor, (a.substitute f).value look = a.value look'
  | .number t h => rfl
  | .variable t h => hf t h
  | .call function opening argument closing h ho hc => by
    rw [Factor.substitute, Factor.value, Factor.value, value_substitute hf argument]
  | .group opening inner closing ho hc => by
    rw [Factor.substitute, Factor.value, Factor.value, value_substitute hf inner]

theorem value_substitute_term (hf : ∀ t h, (f t h).value look = look' t) :
    ∀ a : Term, (a.substitute f).value look = a.value look'
  | .single a => value_substitute_factor hf a
  | .joined left op right h => by
    rw [Term.substitute, Term.value, Term.value, value_substitute_term hf left,
      value_substitute_factor hf right]

theorem value_substitute (hf : ∀ t h, (f t h).value look = look' t) :
    ∀ a : Expression, (a.substitute f).value look = a.value look'
  | .single a => value_substitute_term hf a
  | .joined left op right h => by
    rw [Expression.substitute, Expression.value, Expression.value, value_substitute hf left,
      value_substitute_term hf right]

end

end Values

end Calculator.Grammar
