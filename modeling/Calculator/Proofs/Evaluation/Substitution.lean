import Calculator.Proofs.Evaluation.Table
import Calculator.Proofs.Grammar.Substitution

/-!
# Variables stand for their values

A variable may be replaced by an expression in parentheses that has its value
(`evaluate_substituted`).  The tree of the longer tokens is that of the shorter ones with the tree
of the expression, in parentheses, in the place of each of the variables.
-/

namespace Calculator

namespace Evaluation

open Grammar

variable {bindings : Bindings Value} {name : String} {opening closing : Token → Token}
  {body ts : List Token}

/-! ### A table with one more value -/

/-- Once a name is bound to a number, its variables have that value and all others are as before. -/
theorem tableValue_insert (bindings : Bindings Value) (name : String) (x : Float) (t : Token) :
    tableValue (bindings.insert name (.float x)) t =
      if t.text = name then .ok x else tableValue bindings t := by
  unfold tableValue Resolver.table
  dsimp only
  rw [Bindings.get?_insert]
  by_cases h : t.text = name
  · rw [if_pos h, if_pos h]
    rfl
  · rw [if_neg h, if_neg h]
    cases bindings.get? t.text <;> rfl

/-! ### The end of the longer tokens -/

theorem isTerminated_iff {tokens : List Token} :
    isTerminated tokens = true ↔ ∃ before last, tokens = before ++ [last] ∧ last.kind = .eof := by
  rcases List.eq_nil_or_concat' tokens with rfl | ⟨before, last, rfl⟩
  · simp [isTerminated]
  · simp [isTerminated]

theorem substituted_append (us : List Token) :
    substituted name opening closing body (ts ++ us) =
      substituted name opening closing body ts ++ substituted name opening closing body us :=
  List.flatMap_append

/-- Only variables are replaced. -/
theorem substituted_cons_of_ne {t : Token} (h : t.kind ≠ .variable) (us : List Token) :
    substituted name opening closing body (t :: us) =
      t :: substituted name opening closing body us :=
  flatMap_cons_of_ne (fun _ h => if_neg fun hboth => h hboth.1) h us

theorem isTerminated_substituted (h : isTerminated ts = true) :
    isTerminated (substituted name opening closing body ts) = true := by
  obtain ⟨before, last, rfl, hlast⟩ := isTerminated_iff.mp h
  refine isTerminated_iff.mpr ⟨substituted name opening closing body before, last, ?_, hlast⟩
  rw [substituted_append, substituted_cons_of_ne (by simp [hlast])]
  rfl

/-! ### The tree of the longer tokens -/

section Tree

variable (name : String) (ho : ∀ t, (opening t).kind = .lparen)
  (hc : ∀ t, (closing t).kind = .rparen) (inner : Expression)

/-- What stands for a variable of any name: the tree in parentheses for one of the given name, and
the variable itself for any other. -/
def replacement (t : Token) (h : t.kind = .variable) : Factor :=
  if t.text = name then .group (opening t) inner (closing t) (ho t) (hc t) else .variable t h

/-- The tokens of the longer tree are the longer tokens. -/
theorem tokens_substitute_replacement (e : Expression) :
    (e.substitute (replacement name ho hc inner)).tokens =
      substituted name opening closing inner.tokens e.tokens := by
  refine tokens_substitute (fun t h => ?_) (fun t h => ?_) e
  · unfold replacement
    by_cases hname : t.text = name
    · rw [if_pos hname, if_pos ⟨h, hname⟩, Factor.tokens]
    · rw [if_neg hname, if_neg fun hboth => hname hboth.2, Factor.tokens]
  · exact if_neg fun hboth => h hboth.1

/-- The longer tree has the value that the shorter one has when the name is bound to the value of
what replaces it. -/
theorem value_substitute_replacement {x : Float}
    (hinner : inner.value (tableValue bindings) = .ok x) (e : Expression) :
    (e.substitute (replacement name ho hc inner)).value (tableValue bindings) =
      e.value (tableValue (bindings.insert name (.float x))) := by
  refine value_substitute (fun t h => ?_) e
  rw [tableValue_insert]
  unfold replacement
  by_cases hname : t.text = name
  · rw [if_pos hname, if_pos hname, Factor.value, hinner]
  · rw [if_neg hname, if_neg hname, Factor.value]

end Tree

/-! ### Whole evaluations -/

/-- **A variable stands for its value**: if tokens have the value `y` when a name is bound to the
value of an expression, then they have the value `y` as well when each variable of that name is
replaced by the expression in parentheses, as long as these are not nested too deeply.  The tokens
may be any that end with the end, and so may the parentheses be any parentheses. -/
theorem evaluate_substituted (limit : Nat) (bindings : Bindings Value) (name : String)
    (opening closing : Token → Token) (body tokens : List Token) (pos : Nat) (x y : Float)
    (ho : ∀ t, (opening t).kind = .lparen) (hc : ∀ t, (closing t).kind = .rparen)
    (hbody : ∀ t ∈ body, t.kind ≠ .eof)
    (hx : (evaluate Resolver.table limit bindings (body ++ [Token.atEnd pos])).result = .ok x)
    (hy : (evaluate Resolver.table limit (bindings.insert name (.float x)) tokens).result = .ok y)
    (hnested : NestedWithin limit (substituted name opening closing body tokens)) :
    (evaluate Resolver.table limit bindings
      (substituted name opening closing body tokens)).result = .ok y := by
  obtain ⟨inner, rfl, hinner⟩ := exists_value_of_body hbody hx
  have hend : isTerminated (substituted name opening closing inner.tokens tokens) = true :=
    isTerminated_substituted (isTerminated_of_ok hy)
  obtain ⟨e, pos', rest, rfl, he⟩ := exists_value_of_ok hy
  -- the end behind the tree stays where it is, and so the longer tree has it behind it too
  have htokens : substituted name opening closing inner.tokens
        (e.tokens ++ Token.atEnd pos' :: rest) =
      (e.substitute (replacement name ho hc inner)).tokens ++
        Token.atEnd pos' :: substituted name opening closing inner.tokens rest := by
    rw [tokens_substitute_replacement, substituted_append,
      substituted_cons_of_ne (by simp [Token.atEnd])]
  rw [htokens] at hend hnested ⊢
  rw [result_of_value hnested hend, value_substitute_replacement name ho hc inner hinner, he]
  rfl

/-- The tokens of `9-x*x`. -/
def lessSquare : List Token :=
  [spelled .number '9' 0, spelled .operator '-' 1, spelled .variable 'x' 2, spelled .operator '*' 3,
    spelled .variable 'x' 4, Token.atEnd 5]

/-- The tokens of `1+y`. -/
def onePlus : List Token :=
  [spelled .number '1' 0, spelled .operator '+' 1, spelled .variable 'y' 2]

/-- `9-(1+y)*(1+y)` has the value of `9-x*x` where `x` is `1+y`; without the parentheses it would
have another one. -/
theorem evaluate_substituted_lessSquare :
    let bindings : Bindings Value := Bindings.ofList [("y", .float 1.0)]
    let tokens := substituted "x" (fun _ => spelled .lparen '(' 0) (fun _ => spelled .rparen ')' 0)
      onePlus lessSquare
    (evaluate Resolver.table 1 bindings (onePlus ++ [Token.atEnd 3])).result = .ok 2.0 ∧
      (evaluate Resolver.table 1 (bindings.insert "x" (.float 2.0)) lessSquare).result = .ok 5.0 ∧
      NestedWithin 1 tokens ∧ (evaluate Resolver.table 1 bindings tokens).result = .ok 5.0 := by
  intro bindings tokens
  have hx : (evaluate Resolver.table 1 bindings (onePlus ++ [Token.atEnd 3])).result = .ok 2.0 := by
    decide +kernel
  have hy : (evaluate Resolver.table 1 (bindings.insert "x" (.float 2.0)) lessSquare).result =
      .ok 5.0 := by
    decide +kernel
  have hnested : NestedWithin 1 tokens := by decide
  exact ⟨hx, hy, hnested, evaluate_substituted 1 bindings "x" _ _ onePlus lessSquare 3 2.0 5.0
    (fun _ => rfl) (fun _ => rfl) (by decide) hx hy hnested⟩

end Evaluation

end Calculator
