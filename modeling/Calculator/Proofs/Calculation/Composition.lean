import Calculator.Proofs.Calculation.Failures
import Calculator.Proofs.Evaluation.Positions
import Calculator.Proofs.Evaluation.Table
import Calculator.Proofs.Token.Concatenation

/-!
# Texts put together from texts

A text that is put together from texts in parentheses has the value that is put together from
theirs (`calculateWithin_composed`).  The tokens of a part move on with what stands before it, and
keep the kinds and spellings of their tree, so the parts are kept as texts whose tokens have a tree
wherever they stand (`Denotes`).
-/

namespace Calculator

open Evaluation Grammar

variable {bindings : Bindings Value} {cs ds : List Char}

/-! ### Texts and their trees -/

/-- Whether the tokens of a text, moved on by any distance, are those of a tree of a kind, which has
the given value. -/
def Denotes {Tree : Type} (tokens : Tree → List Token) (value : Tree → Except Failure Float)
    (cs : List Char) (r : Except Failure Float) : Prop :=
  ∃ body, Token.Covers cs 0 body ∧
    ∀ n, ∃ a : Tree, tokens a = body.map (Token.shifted n) ∧ value a = r

/-- Whether a text is a factor with the given value. -/
abbrev IsFactor (bindings : Bindings Value) :=
  Denotes Factor.tokens (Factor.value (tableValue bindings))

/-- Whether a text is a term with the given value. -/
abbrev IsTerm (bindings : Bindings Value) :=
  Denotes Term.tokens (Term.value (tableValue bindings))

/-- Whether a text is an expression with the given value. -/
abbrev IsExpression (bindings : Bindings Value) :=
  Denotes Expression.tokens (Expression.value (tableValue bindings))

variable {r : Except Failure Float}

/-- A tree may be taken for one of another kind that has the same tokens and the same value. -/
theorem Denotes.of_same {α β : Type} {tokens : α → List Token} {value : α → Except Failure Float}
    {tokens' : β → List Token} {value' : β → Except Failure Float} (f : α → β)
    (htokens : ∀ a, tokens' (f a) = tokens a) (hvalue : ∀ a, value' (f a) = value a)
    (h : Denotes tokens value cs r) : Denotes tokens' value' cs r := by
  obtain ⟨body, hcov, htree⟩ := h
  refine ⟨body, hcov, fun n => ?_⟩
  obtain ⟨a, ha, ha'⟩ := htree n
  exact ⟨f a, (htokens a).trans ha, (hvalue a).trans ha'⟩

theorem isTerm_of_isFactor (h : IsFactor bindings cs r) : IsTerm bindings cs r :=
  Denotes.of_same Term.single (fun _ => rfl) (fun _ => rfl) h

theorem isExpression_of_isTerm (h : IsTerm bindings cs r) : IsExpression bindings cs r :=
  Denotes.of_same Expression.single (fun _ => rfl) (fun _ => rfl) h

/-- Two texts with an operator between them are what the operator joins their trees to. -/
theorem denotes_joined {α β γ : Type} {tokens : α → List Token} {value : α → Except Failure Float}
    {tokens' : β → List Token} {value' : β → Except Failure Float} {tokens'' : γ → List Token}
    {value'' : γ → Except Failure Float} {r r' r'' : Except Failure Float} {c : Char}
    (hc : Token.markKind? c = some .operator) (h : Denotes tokens value cs r)
    (h' : Denotes tokens' value' ds r')
    (hjoin : ∀ a b n, value a = r → value' b = r' →
      ∃ d, tokens'' d = tokens a ++ Token.ofMark .operator c n hc :: tokens' b ∧ value'' d = r'') :
    Denotes tokens'' value'' (cs ++ c :: ds) r'' := by
  obtain ⟨body, hcov, htree⟩ := h
  obtain ⟨body', hcov', htree'⟩ := h'
  refine ⟨_, hcov.mark hcov' hc, fun n => ?_⟩
  obtain ⟨a, htokens, hvalue⟩ := htree n
  obtain ⟨b, htokens', hvalue'⟩ := htree' (n + (cs.length + 1))
  obtain ⟨d, hd, hd'⟩ := hjoin a b (n + cs.length) hvalue hvalue'
  refine ⟨d, ?_, hd'⟩
  rw [hd, htokens, htokens', List.map_append, List.map_cons, Token.map_shifted_shifted]
  rfl

variable {x y : Float}

theorem isExpression_joined (c : Char) (op : SumOp) (hc : Token.markKind? c = some .operator)
    (hop : ∀ n, sumOp? (Token.ofMark .operator c n hc) = some op)
    (h : IsExpression bindings cs (.ok x)) (h' : IsTerm bindings ds (.ok y)) :
    IsExpression bindings (cs ++ c :: ds) (.ok (op.apply x y)) := by
  refine denotes_joined hc h h' fun left right n hleft hright => ?_
  refine ⟨.joined left _ right (Option.isSome_iff_exists.mpr ⟨op, hop n⟩), rfl, ?_⟩
  simp only [Expression.value, hleft, hright, hop, Option.get_some]
  rfl

theorem isTerm_joined (c : Char) (op : ProductOp) (hc : Token.markKind? c = some .operator)
    (hop : ∀ n, productOp? (Token.ofMark .operator c n hc) = some op)
    (h : IsTerm bindings cs (.ok x)) (h' : IsFactor bindings ds (.ok y)) :
    IsTerm bindings (cs ++ c :: ds) (op.apply x y) := by
  refine denotes_joined hc h h' fun left right n hleft hright => ?_
  refine ⟨.joined left _ right (Option.isSome_iff_exists.mpr ⟨op, hop n⟩), rfl, ?_⟩
  simp only [Term.value, hleft, hright, hop, Option.get_some]
  rfl

/-- A text in parentheses, with something before them, is what the parentheses make of its tree. -/
theorem isFactor_parenthesis {before : List Char} {ts : List Token} {r r' : Except Failure Float}
    (hbefore : Token.Covers before 0 ts) (h : IsExpression bindings cs r)
    (hmake : ∀ (a : Expression) (n : Nat), a.value (tableValue bindings) = r →
      ∃ f : Factor, f.tokens = ts.map (Token.shifted n) ++
          Token.ofMark .lparen '(' (n + before.length) rfl :: (a.tokens ++
            [Token.ofMark .rparen ')' (n + (before.length + 1 + cs.length)) rfl]) ∧
        f.value (tableValue bindings) = r') :
    IsFactor bindings (before ++ '(' :: (cs ++ [')'])) r' := by
  obtain ⟨body, hcov, htree⟩ := h
  refine ⟨_, hbefore.parenthesis hcov, fun n => ?_⟩
  obtain ⟨a, htokens, hvalue⟩ := htree (n + (before.length + 1))
  obtain ⟨f, hf, hf'⟩ := hmake a n hvalue
  refine ⟨f, ?_, hf'⟩
  rw [hf, htokens, List.map_append, List.map_cons, List.map_append, Token.map_shifted_shifted]
  rfl

theorem isFactor_group (h : IsExpression bindings cs r) :
    IsFactor bindings ('(' :: (cs ++ [')'])) r := by
  refine isFactor_parenthesis Token.covers_empty h fun a n ha => ?_
  exact ⟨.group _ a _ rfl rfl, rfl, by simp only [Factor.value, ha]⟩

theorem apply_call {t : Token} {f : Trig} (h : t.text = f.name) (x : Float) :
    (Opener.call t).apply x = (f.ofDegrees x).mapError .fault := by
  unfold Opener.apply
  dsimp only
  rw [h, Trig.ofName?_name]

/-- A function of a text in parentheses is the function of its value. -/
theorem isFactor_call (f : Trig) (h : IsExpression bindings cs (.ok x)) :
    IsFactor bindings (f.name.toList ++ '(' :: (cs ++ [')']))
      ((f.ofDegrees x).mapError .fault) := by
  obtain ⟨t, ht, hk, htext⟩ := Token.covers_name f
  refine isFactor_parenthesis ht h fun a n ha => ?_
  refine ⟨.call (t.shifted n) _ a _ hk rfl rfl, rfl, ?_⟩
  simp only [Factor.value, ha]
  exact apply_call (t := t.shifted n) htext x

/-! ### Texts that are calculated -/

variable {limit : Nat} {source : String}

/-- The tokens of a text that has a value have a tree with that value wherever they stand. -/
theorem isExpression_of_ok
    (h : (calculateWithin Resolver.table limit bindings source).result = .ok x) :
    IsExpression bindings source.toList (.ok x) := by
  cases hlex : Token.ofText source with
  | error e =>
    rw [calculateWithin, hlex] at h
    cases h
  | ok tokens =>
    rw [result_calculateWithin hlex, mapError_eq_ok] at h
    obtain ⟨body, hcov, rfl⟩ := Token.ofText_eq_ok_iff_covers.mp hlex
    refine ⟨body, hcov, fun n => ?_⟩
    -- the tokens that have moved on are evaluated to the same value, so they have a tree as well
    have halike : List.Forall₂ Token.Alike (body ++ [Token.atEnd source.toList.length])
        (body.map (Token.shifted n) ++ [Token.atEnd source.toList.length]) :=
      List.rel_append (List.forall₂_map_right_iff.mpr (List.forall₂_same.mpr fun _ _ => ⟨rfl, rfl⟩))
        (.cons ⟨rfl, rfl⟩ .nil)
    have hmoved :=
      (evaluate_alike (fun _ _ h => h) Resolver.table limit bindings halike).result.eq_ok h
    refine exists_value_of_body (fun u hu => ?_) hmoved
    obtain ⟨t, ht, rfl⟩ := List.mem_map.mp hu
    exact (hcov.fits t ht).2.kind_ne_eof

/-- Whether the parentheses of a text are nested no deeper than `limit`. -/
def Nested (limit : Nat) (source : String) : Prop :=
  ∀ tokens, Token.ofText source = .ok tokens → NestedWithin limit tokens

theorem nested_iff_of_eq_ok {tokens : List Token} (h : Token.ofText source = .ok tokens) :
    NestedWithin limit tokens ↔ Nested limit source := by
  refine ⟨fun hnested us hus => ?_, fun hnested => hnested tokens h⟩
  rw [h] at hus
  cases hus
  exact hnested

theorem nested_of_eq_error {e : Error} (h : Token.ofText source = .error e) :
    Nested limit source := by
  intro us hus
  rw [h] at hus
  cases hus

instance (limit : Nat) (source : String) : Decidable (Nested limit source) :=
  match h : Token.ofText source with
  | .ok _ => decidable_of_iff _ (nested_iff_of_eq_ok h)
  | .error _ => isTrue (nested_of_eq_error h)

/-- Whether the calculation of a text has the given result, as long as the text is not nested too
deeply. -/
def Calculates (limit : Nat) (bindings : Bindings Value) (source : String)
    (r : Except Failure Float) : Prop :=
  Nested limit source → (calculateWithin Resolver.table limit bindings source).result = r

/-- The calculation of an expression has the value of its tree; a failure of the tree is that of the
calculation, as long as it has no place in the text. -/
theorem calculates_of_isExpression (h : IsExpression bindings source.toList r)
    (hr : (r.mapError evaluationFailure).mapError (Failure.attachSource source) = r) :
    Calculates limit bindings source r := by
  intro hnested
  obtain ⟨body, hcov, htree⟩ := h
  obtain ⟨e, htokens, hvalue⟩ := htree 0
  have hlex : Token.ofText source = .ok (e.tokens ++ [Token.atEnd source.toList.length]) :=
    Token.ofText_eq_ok_iff_covers.mpr ⟨body, hcov, by rw [htokens, Token.map_shifted_zero]⟩
  rw [result_calculateWithin hlex, result_of_value (hnested _ hlex) (isTerminated_of_ofText hlex),
    hvalue, hr]

/-- The only failure of a function is that of an infinite angle, which has no place. -/
theorem mapError_ofDegrees (f : Trig) (x : Float) :
    ((((f.ofDegrees x).mapError Failure.fault).mapError evaluationFailure).mapError
      (Failure.attachSource source)) = (f.ofDegrees x).mapError .fault := by
  cases h : f.ofDegrees x with
  | ok y => rfl
  | error fault =>
    obtain ⟨rfl, -⟩ := (Trig.ofDegrees_eq_error_iff f x fault).mp h
    rfl

/-- **Texts are put together as their values are**: if two texts have the values `x` and `y`, then
parentheses around the first one keep the value; both in parentheses, with an operator between them,
have the value that the operator gives, where a divisor of either zero is an error; the first one
need not be in parentheses before `+` and `-`; and a function name before the parentheses is that
function of the angle `x` in degrees, or its failure.  All this holds as long as the parentheses are
not nested too deeply. -/
theorem calculateWithin_composed (limit : Nat) (bindings : Bindings Value) (s t : String)
    (x y : Float) (hs : (calculateWithin Resolver.table limit bindings s).result = .ok x)
    (ht : (calculateWithin Resolver.table limit bindings t).result = .ok y) :
    Calculates limit bindings ("(" ++ s ++ ")") (.ok x) ∧
      Calculates limit bindings ("(" ++ s ++ ")" ++ "+" ++ "(" ++ t ++ ")") (.ok (x + y)) ∧
      Calculates limit bindings ("(" ++ s ++ ")" ++ "-" ++ "(" ++ t ++ ")") (.ok (x - y)) ∧
      Calculates limit bindings ("(" ++ s ++ ")" ++ "*" ++ "(" ++ t ++ ")") (.ok (x * y)) ∧
      Calculates limit bindings ("(" ++ s ++ ")" ++ "/" ++ "(" ++ t ++ ")")
        (if y == 0.0 then .error (.error { cause := .divisionByZero }) else .ok (x / y)) ∧
      Calculates limit bindings (s ++ "+(" ++ t ++ ")") (.ok (x + y)) ∧
      Calculates limit bindings (s ++ "-(" ++ t ++ ")") (.ok (x - y)) ∧
      ∀ f : Trig, Calculates limit bindings (f.name ++ "(" ++ s ++ ")")
        ((f.ofDegrees x).mapError .fault) := by
  have hleft : IsExpression bindings s.toList (.ok x) := isExpression_of_ok hs
  have hgroup : IsTerm bindings _ (.ok x) := isTerm_of_isFactor (isFactor_group hleft)
  have hright : IsFactor bindings _ (.ok y) := isFactor_group (isExpression_of_ok ht)
  have hrightTerm : IsTerm bindings _ (.ok y) := isTerm_of_isFactor hright
  have hgroupSum : IsExpression bindings _ (.ok x) := isExpression_of_isTerm hgroup
  refine ⟨?_, ?_, ?_, ?_, ?_, ?_, ?_, fun f => ?_⟩
  · refine calculates_of_isExpression ?_ rfl
    simpa using hgroupSum
  · refine calculates_of_isExpression ?_ rfl
    simpa [SumOp.apply] using isExpression_joined '+' .add rfl (fun _ => rfl) hgroupSum hrightTerm
  · refine calculates_of_isExpression ?_ rfl
    simpa [SumOp.apply] using
      isExpression_joined '-' .subtract rfl (fun _ => rfl) hgroupSum hrightTerm
  · refine calculates_of_isExpression ?_ rfl
    simpa [ProductOp.apply] using
      isExpression_of_isTerm (isTerm_joined '*' .multiply rfl (fun _ => rfl) hgroup hright)
  · refine calculates_of_isExpression ?_ (by split <;> rfl)
    simpa [ProductOp.apply] using
      isExpression_of_isTerm (isTerm_joined '/' .divide rfl (fun _ => rfl) hgroup hright)
  · refine calculates_of_isExpression ?_ rfl
    simpa [SumOp.apply] using isExpression_joined '+' .add rfl (fun _ => rfl) hleft hrightTerm
  · refine calculates_of_isExpression ?_ rfl
    simpa [SumOp.apply] using isExpression_joined '-' .subtract rfl (fun _ => rfl) hleft hrightTerm
  · refine calculates_of_isExpression ?_ (mapError_ofDegrees f x)
    simpa using isExpression_of_isTerm (isTerm_of_isFactor (isFactor_call f hleft))

/-- `8-3-(x*2)` is the difference of `8-3` and `x*2`, `sin(8-3)` is the sine of `8-3` degrees, and
an infinite `z` has no tangent. -/
theorem calculateWithin_composed_difference :
    let bindings : Bindings Value := Bindings.ofList [("x", .float 1.5), ("z", .float (1.0 / 0.0))]
    (calculateWithin Resolver.table 1 bindings "8-3").result = .ok 5.0 ∧
      (calculateWithin Resolver.table 1 bindings "x*2").result = .ok 3.0 ∧
      Nested 1 "8-3-(x*2)" ∧ Nested 1 "sin(8-3)" ∧ Nested 1 "tan(z)" ∧
      (calculateWithin Resolver.table 1 bindings "8-3-(x*2)").result = .ok 2.0 ∧
      (calculateWithin Resolver.table 1 bindings "sin(8-3)").result =
        .ok (Float.sin (5.0 * Trig.degree)) ∧
      (calculateWithin Resolver.table 1 bindings "tan(z)").result =
        .error (.fault .infiniteAngle) := by
  intro bindings
  have hs : (calculateWithin Resolver.table 1 bindings "8-3").result = .ok 5.0 := by decide +kernel
  have ht : (calculateWithin Resolver.table 1 bindings "x*2").result = .ok 3.0 := by decide +kernel
  have hz : (calculateWithin Resolver.table 1 bindings "z").result = .ok (1.0 / 0.0) := by
    decide +kernel
  have hnested : Nested 1 ("8-3" ++ "-(" ++ "x*2" ++ ")") := by decide +kernel
  have hnestedSine : Nested 1 ("sin" ++ "(" ++ "8-3" ++ ")") := by decide +kernel
  have hnestedTangent : Nested 1 ("tan" ++ "(" ++ "z" ++ ")") := by decide +kernel
  obtain ⟨-, -, -, -, -, -, hdifference, hfunction⟩ :=
    calculateWithin_composed 1 bindings "8-3" "x*2" 5.0 3.0 hs ht
  obtain ⟨-, -, -, -, -, -, -, hinfinite⟩ :=
    calculateWithin_composed 1 bindings "z" "z" (1.0 / 0.0) (1.0 / 0.0) hz hz
  refine ⟨hs, ht, hnested, hnestedSine, hnestedTangent, (hdifference hnested).trans ?_,
    (hfunction .sin hnestedSine).trans ?_, (hinfinite .tan hnestedTangent).trans ?_⟩
  · decide +kernel
  · have hfinite : (5.0 * Trig.degree).isInf = false := by decide +kernel
    simp only [Trig.ofDegrees, hfinite]
    rfl
  · decide +kernel

end Calculator
