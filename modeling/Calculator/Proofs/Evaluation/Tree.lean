import Calculator.Grammar.Meaning
import Calculator.Proofs.Evaluation.Progress
import Calculator.Proofs.Grammar.Draft
import Calculator.Resolver.Script

/-!
# Evaluating tokens is evaluating their tree

Reading the tokens of a factor, a term or an expression has the effect of evaluating the tree, and
then goes on with its value (`meaning_factor`, `meaning_term`, `meaning_expression`).  So tokens
that have a tree, which is then their only one, are evaluated as the tree is: with the same result
and with the same queries in the same order (`evaluate_eq_meaning`).
-/

namespace Calculator.Evaluation

open Grammar

variable {σ : Type} {R : Resolver σ} {limit : Nat} {goal : Goal}

/-! ### Meanings -/

theorem andThen_assoc (m : Meaning σ) (f g : Float → Transcript σ → Meaning σ) :
    Meaning.andThen (Meaning.andThen m f) g =
      Meaning.andThen m fun x log => Meaning.andThen (f x log) g := by
  obtain ⟨result, log⟩ := m
  cases result <;> rfl

theorem andThen_congr {m : Meaning σ} {f g : Float → Transcript σ → Meaning σ}
    (h : ∀ x log, f x log = g x log) : Meaning.andThen m f = Meaning.andThen m g := by
  rw [show f = g from funext fun x => funext fun log => h x log]

namespace Progress

/-- What an evaluation under way comes to, wherever its cursor will stand. -/
def meaning (R : Resolver σ) (limit : Nat) (goal : Goal) (p : Progress σ) : Meaning σ :=
  ((p.outcome R limit goal).result, (p.outcome R limit goal).log)

theorem meaning_eq_of_step {p q : Progress σ} (h : Step R limit goal p q) :
    p.meaning R limit goal = q.meaning R limit goal := by
  rw [meaning, outcome_eq_of_step h, meaning]

theorem meaning_eq_of_ends {p : Progress σ} {o : Outcome σ} (h : Ends R limit goal p o) :
    p.meaning R limit goal = (o.result, o.log) := by
  rw [meaning, outcome_eq_of_ends h]

/-- What an evaluation comes to that goes on with the value of a factor. -/
def extended (R : Resolver σ) (limit : Nat) (goal : Goal) (pending : Pending)
    (frames : List Frame) (cursor : Nat) (rest : List Token) (x : Float) (log : Transcript σ) :
    Meaning σ :=
  Meaning.andThen (pending.term x, log) fun y log =>
    meaning R limit goal
      ⟨⟨.value y, { pending with product := none }, frames⟩, cursor, log, rest⟩

/-! ### Single tokens -/

variable {pending : Pending} {frames : List Frame} {cursor : Nat} {log : Transcript σ}
  {t : Token} {rest : List Token}

theorem meaning_number (h : t.kind = .number) :
    meaning R limit goal ⟨⟨.operand, pending, frames⟩, cursor, log, t :: rest⟩ =
      Meaning.andThen (numberValue t, log)
        (extended R limit goal pending frames (cursor + 1) rest) := by
  cases hx : numberValue t with
  | error e => exact meaning_eq_of_ends (.fail (.number h hx))
  | ok x =>
    simp only [Meaning.andThen, extended]
    cases hy : pending.term x with
    | error e => exact meaning_eq_of_ends (.fail (.factor h hx hy))
    | ok y => exact meaning_eq_of_step (.read (.number h hx hy))

theorem meaning_variable (h : t.kind = .variable) :
    meaning R limit goal ⟨⟨.operand, pending, frames⟩, cursor, log, t :: rest⟩ =
      Meaning.andThen (log.query R t)
        (extended R limit goal pending frames (cursor + 1) rest) := by
  rw [show log.query R t = ((log.query R t).1, (log.query R t).2) from rfl]
  cases hx : (log.query R t).1 with
  | error e => exact meaning_eq_of_ends (.unanswered h hx)
  | ok x =>
    simp only [Meaning.andThen, extended]
    cases hy : pending.term x with
    | error e => exact meaning_eq_of_ends (.unfit h hx hy)
    | ok y => exact meaning_eq_of_step (.answer h hx hy)

theorem meaning_close {x : Float} {opener : Opener} {outer : Pending} (h : t.kind = .rparen) :
    meaning R limit goal
        ⟨⟨.value x, pending, ⟨opener, outer⟩ :: frames⟩, cursor, log, t :: rest⟩ =
      Meaning.andThen (opener.apply (pending.expression x), log)
        (extended R limit goal outer frames (cursor + 1) rest) := by
  cases hy : opener.apply (pending.expression x) with
  | error e => exact meaning_eq_of_ends (.fail (.apply h hy))
  | ok y =>
    simp only [Meaning.andThen, extended]
    cases hz : outer.term y with
    | error e => exact meaning_eq_of_ends (.fail (.close h hy hz))
    | ok z => exact meaning_eq_of_step (.read (.close h hy hz))

/-- What stands in a parenthesis is handed to what the parenthesis was opened for. -/
theorem meaning_parenthesis {opener : Opener} {m : Meaning σ} {ts : List Token} {n : Nat}
    (h : t.kind = .rparen)
    (inner : meaning R limit goal
        ⟨⟨.operand, {}, ⟨opener, pending⟩ :: frames⟩, cursor, log, ts⟩ =
      Meaning.andThen m fun x log => meaning R limit goal
        ⟨⟨.value x, {}, ⟨opener, pending⟩ :: frames⟩, n, log, t :: rest⟩) :
    meaning R limit goal ⟨⟨.operand, {}, ⟨opener, pending⟩ :: frames⟩, cursor, log, ts⟩ =
      Meaning.andThen m fun x log =>
        Meaning.andThen (opener.apply x, log)
          (extended R limit goal pending frames (n + 1) rest) := by
  rw [inner]
  refine andThen_congr fun x log => ?_
  rw [meaning_close h]
  rfl

/-- Before anything but an operator between factors, only the value of what stands in the innermost
parenthesis counts. -/
theorem meaning_value (hp : productOp? t = none) (x : Float) :
    meaning R limit goal ⟨⟨.value x, pending, frames⟩, cursor, log, t :: rest⟩ =
      meaning R limit goal
        ⟨⟨.value (pending.expression x), {}, frames⟩, cursor, log, t :: rest⟩ := by
  have hon := @State.on_value_eq limit goal t hp x pending frames
  simp only [meaning, outcome, run, hon]
  cases h : State.on ⟨.value (pending.expression x), {}, frames⟩ limit goal t with
  | ask => cases (State.on_eq_ask_iff.mp h).1
  | _ => rfl

/-! ### Trees -/

theorem meaning_product {x : Float} {sum : Option (Float × SumOp)} {op : Token}
    (hg : goal.inside frames ≠ .factor) (h : (productOp? op).isSome) :
    meaning R limit goal ⟨⟨.value x, ⟨sum, none⟩, frames⟩, cursor, log, op :: rest⟩ =
      meaning R limit goal ⟨⟨.operand, ⟨sum, some (x, (productOp? op).get h)⟩, frames⟩,
        cursor + 1, log, rest⟩ := by
  refine meaning_eq_of_step (.read (.product ?_))
  cases hi : goal.inside frames with
  | factor => exact absurd hi hg
  | _ => simp [Goal.productOp?]

theorem meaning_sum {x : Float} {op : Token}
    (hg : goal.inside frames ≠ .factor ∧ goal.inside frames ≠ .term) (h : (sumOp? op).isSome) :
    meaning R limit goal ⟨⟨.value x, {}, frames⟩, cursor, log, op :: rest⟩ =
      meaning R limit goal ⟨⟨.operand, { sum := some (x, (sumOp? op).get h) }, frames⟩,
        cursor + 1, log, rest⟩ := by
  refine meaning_eq_of_step (.read (.sum ?_))
  cases hi : goal.inside frames with
  | factor => exact absurd hi hg.1
  | term => exact absurd hi hg.2
  | _ => simp [Goal.sumOp?]

theorem add_length_append_cons (n : Nat) (ts us : List Token) (t : Token) :
    n + (ts ++ t :: us).length = n + ts.length + 1 + us.length := by
  simp only [List.length_append, List.length_cons]
  omega

mutual

theorem meaning_factor (f : Factor) (pending : Pending) (frames : List Frame) (cursor : Nat)
    (log : Transcript σ) (rest : List Token) (hd : frames.length + f.depth ≤ limit) :
    meaning R limit goal ⟨⟨.operand, pending, frames⟩, cursor, log, f.tokens ++ rest⟩ =
      Meaning.andThen (f.meaning R log)
        (extended R limit goal pending frames (cursor + f.tokens.length) rest) := by
  cases f with
  | number t h => exact meaning_number h
  | «variable» t h => exact meaning_variable h
  | call f opening inner closing h ho hc =>
    simp only [Factor.depth] at hd
    -- two tokens are read before the argument, which stands in a parenthesis of its own
    have hname : Step R limit goal
        ⟨⟨.operand, pending, frames⟩, cursor, log,
          f :: opening :: (inner.tokens ++ closing :: rest)⟩
        ⟨⟨.argument f, pending, frames⟩, cursor + 1, log,
          opening :: (inner.tokens ++ closing :: rest)⟩ :=
      .read (.name h)
    have hopen : Step R limit goal
        ⟨⟨.argument f, pending, frames⟩, cursor + 1, log,
          opening :: (inner.tokens ++ closing :: rest)⟩
        ⟨⟨.operand, {}, ⟨.call f, pending⟩ :: frames⟩, cursor + 1 + 1, log,
          inner.tokens ++ closing :: rest⟩ :=
      .read (.call ho (by omega))
    have hinner := meaning_expression inner (⟨.call f, pending⟩ :: frames) (cursor + 1 + 1) log
      closing rest (by simp [Goal.inside]) (by simp only [List.length_cons]; omega)
      (productOp?_eq_none_of_kind (by simp [hc]))
    have htokens : (Factor.call f opening inner closing h ho hc).tokens ++ rest =
        f :: opening :: (inner.tokens ++ closing :: rest) := by simp [Factor.tokens]
    have hlength : cursor + (Factor.call f opening inner closing h ho hc).tokens.length =
        cursor + 1 + 1 + inner.tokens.length + 1 := by
      simp only [Factor.tokens, List.length_append, List.length_cons, List.length_nil]
      omega
    rw [htokens, meaning_eq_of_step hname, meaning_eq_of_step hopen,
      meaning_parenthesis hc hinner, Factor.meaning, andThen_assoc, hlength]
  | group opening inner closing ho hc =>
    simp only [Factor.depth] at hd
    have hopen : Step R limit goal
        ⟨⟨.operand, pending, frames⟩, cursor, log,
          opening :: (inner.tokens ++ closing :: rest)⟩
        ⟨⟨.operand, {}, ⟨.group, pending⟩ :: frames⟩, cursor + 1, log,
          inner.tokens ++ closing :: rest⟩ :=
      .read (.group ho (by omega))
    have hinner := meaning_expression inner (⟨.group, pending⟩ :: frames) (cursor + 1) log
      closing rest (by simp [Goal.inside]) (by simp only [List.length_cons]; omega)
      (productOp?_eq_none_of_kind (by simp [hc]))
    have htokens : (Factor.group opening inner closing ho hc).tokens ++ rest =
        opening :: (inner.tokens ++ closing :: rest) := by simp [Factor.tokens]
    have hlength : cursor + (Factor.group opening inner closing ho hc).tokens.length =
        cursor + 1 + inner.tokens.length + 1 := by
      simp only [Factor.tokens, List.length_append, List.length_cons, List.length_nil]
      omega
    rw [htokens, meaning_eq_of_step hopen, meaning_parenthesis hc hinner, Factor.meaning, hlength]
    rfl

theorem meaning_term (t : Term) (sum : Option (Float × SumOp)) (frames : List Frame)
    (cursor : Nat) (log : Transcript σ) (rest : List Token) (hg : goal.inside frames ≠ .factor)
    (hd : frames.length + t.depth ≤ limit) :
    meaning R limit goal ⟨⟨.operand, ⟨sum, none⟩, frames⟩, cursor, log, t.tokens ++ rest⟩ =
      Meaning.andThen (t.meaning R log) fun x log =>
        meaning R limit goal
          ⟨⟨.value x, ⟨sum, none⟩, frames⟩, cursor + t.tokens.length, log, rest⟩ := by
  cases t with
  | single f => exact meaning_factor f ⟨sum, none⟩ frames cursor log rest hd
  | joined left op right h =>
    simp only [Term.depth] at hd
    -- the left operand leaves its value where `op` finds it, and the right one meets it as pending
    rw [Term.tokens, List.append_assoc, List.cons_append,
      meaning_term left sum frames cursor log _ hg (by omega), Term.meaning, andThen_assoc]
    refine andThen_congr fun x log => ?_
    rw [meaning_product hg h, meaning_factor right _ frames _ log rest (by omega), andThen_assoc]
    refine andThen_congr fun y log => ?_
    rw [add_length_append_cons]
    rfl

theorem meaning_expression (e : Expression) (frames : List Frame) (cursor : Nat)
    (log : Transcript σ) (t : Token) (rest : List Token)
    (hg : goal.inside frames ≠ .factor ∧ goal.inside frames ≠ .term)
    (hd : frames.length + e.depth ≤ limit) (ht : productOp? t = none) :
    meaning R limit goal ⟨⟨.operand, {}, frames⟩, cursor, log, e.tokens ++ t :: rest⟩ =
      Meaning.andThen (e.meaning R log) fun x log =>
        meaning R limit goal
          ⟨⟨.value x, {}, frames⟩, cursor + e.tokens.length, log, t :: rest⟩ := by
  cases e with
  | single term =>
    rw [Expression.tokens, meaning_term term none frames cursor log _ hg.1 hd]
    rfl
  | joined left op right h =>
    simp only [Expression.depth] at hd
    -- the left operand ends at `op`, which does not join factors
    obtain ⟨o, ho⟩ := Option.isSome_iff_exists.mp h
    rw [Expression.tokens, List.append_assoc, List.cons_append,
      meaning_expression left frames cursor log op _ hg (by omega)
        (productOp?_eq_none_of_sumOp? ho),
      Expression.meaning, andThen_assoc]
    refine andThen_congr fun x log => ?_
    rw [meaning_sum hg h, meaning_term right _ frames _ log _ hg.1 (by omega), andThen_assoc]
    refine andThen_congr fun y log => ?_
    -- `t` does not join factors either, so the pending sum may be taken before it is read
    rw [meaning_value ht, add_length_append_cons]
    rfl

end

end Progress

/-! ### Whole expressions -/

/-- The tokens of an expression with an end behind them come to what their tree comes to, whatever
follows the end. -/
theorem meaning_before_end (e : Expression) (state : σ) (pos : Nat) (rest : List Token)
    (hd : e.depth ≤ limit) :
    (Progress.start state (e.tokens ++ Token.atEnd pos :: rest)).meaning R limit .whole =
      e.meaning R { state } := by
  rw [Progress.start, Progress.meaning_expression e [] 0 { state } (Token.atEnd pos) rest
    (by simp [Goal.inside]) (by simpa using hd)
    (productOp?_eq_none_of_kind (by simp [Token.atEnd]))]
  have hstop : ∀ (x : Float) (log : Transcript σ),
      Progress.meaning R limit .whole
        ⟨⟨.value x, {}, []⟩, 0 + e.tokens.length, log, Token.atEnd pos :: rest⟩ = (.ok x, log) :=
    fun x log => Progress.meaning_eq_of_ends (.stop rfl rfl fun _ => rfl)
  simp only [hstop]
  generalize e.meaning R { state } = m
  obtain ⟨result, log⟩ := m
  cases result <;> rfl

/-- The tokens of an expression with the end behind them come to what their tree comes to. -/
theorem meaning_start (e : Expression) (state : σ) (pos : Nat) (hd : e.depth ≤ limit) :
    (Progress.start state (e.tokens ++ [Token.atEnd pos])).meaning R limit .whole =
      e.meaning R { state } :=
  meaning_before_end e state pos [] hd

/-- **Evaluation follows the grammar**: tokens that are derived from the grammar, with the end
behind them, have only one tree, and as long as parentheses are nested no deeper than allowed, the
evaluation of the tokens has the result of the evaluation of the tree, with the same queries in
the same order and the same state of the resolver behind them.  (Queries that are nested too deeply
are an error of the whole evaluation, as parentheses are: `evaluationFailure`.) -/
theorem evaluate_eq_meaning (R : Resolver σ) (limit : Nat) (state : σ) (tokens : List Token)
    (pos : Nat) (e : Expression) (he : e.tokens = tokens) (hd : e.depth ≤ limit) :
    let outcome := evaluate R limit state (tokens ++ [Token.atEnd pos])
    let meaning := e.meaning R { state }
    (∀ e' : Expression, e'.tokens = tokens → e' = e) ∧
      outcome.result = meaning.1.mapError evaluationFailure ∧
      outcome.log.queries = meaning.2.queries ∧
      outcome.log.state = meaning.2.state := by
  subst he
  have hm := meaning_start e state pos hd (R := R)
  rw [Progress.meaning, Prod.ext_iff] at hm
  refine ⟨fun e' h => expression_eq_of_tokens_eq h, ?_⟩
  rw [Progress.evaluate_of_isTerminated state (isTerminated_append_atEnd e.tokens pos),
    result_reported, queries_reported, state_reported, ← hm.1, ← hm.2]
  exact ⟨rfl, rfl, rfl⟩

/-- Two quotients, `8/x/(x)`. -/
def quotients : Expression :=
  .single (.joined
    (.joined (.single (.number (spelled .number '8' 0) rfl)) (spelled .operator '/' 1)
      (.variable (spelled .variable 'x' 2) rfl) rfl)
    (spelled .operator '/' 3)
    (.group (spelled .lparen '(' 4) (.single (.single (.variable (spelled .variable 'x' 5) rfl)))
      (spelled .rparen ')' 6) rfl rfl) rfl)

/-- A difference with a quotient by zero, `x-sin(3)/(y-y)/z`. -/
def failingQuotients : Expression :=
  .joined (.single (.single (.variable (spelled .variable 'x' 0) rfl)))
    (spelled .operator '-' 1)
    (.joined
      (.joined
        (.single (.call (Token.ofChars .function 's' ['i', 'n'] 2 (by simp))
          (spelled .lparen '(' 5) (.single (.single (.number (spelled .number '3' 6) rfl)))
          (spelled .rparen ')' 7) rfl rfl rfl))
        (spelled .operator '/' 8)
        (.group (spelled .lparen '(' 9)
          (.joined (.single (.single (.variable (spelled .variable 'y' 10) rfl)))
            (spelled .operator '-' 11) (.single (.variable (spelled .variable 'y' 12) rfl)) rfl)
          (spelled .rparen ')' 13) rfl rfl) rfl)
      (spelled .operator '/' 14) (.variable (spelled .variable 'z' 15) rfl) rfl)
    rfl

/-- The quotients are taken from the left, and the variable may have another value at each use; and
where a divisor is zero, no variable behind it is queried. -/
theorem evaluate_quotients :
    let answers : Script := { steps := [.ok (.float 2.0), .ok (.float 4.0)] }
    let outcome := evaluate Script.resolver 1 answers (quotients.tokens ++ [Token.atEnd 7])
    let others : Script := { steps := List.replicate 4 (.ok (.float 2.0)) }
    let failed := evaluate Script.resolver 1 others (failingQuotients.tokens ++ [Token.atEnd 16])
    quotients.depth ≤ 1 ∧ outcome.result.toOption = some 1.0 ∧
      outcome.log.queries = #["x", "x"] ∧ failingQuotients.depth ≤ 1 ∧
      failed.result = .error (.error { cause := .divisionByZero }) ∧
      failed.log.queries = #["x", "y", "y"] := by
  intro answers outcome others failed
  obtain ⟨-, hresult, hqueries, -⟩ :=
    evaluate_eq_meaning Script.resolver 1 answers quotients.tokens 7 quotients rfl (by decide)
  obtain ⟨-, hfailed, hasked, -⟩ := evaluate_eq_meaning Script.resolver 1 others
    failingQuotients.tokens 16 failingQuotients rfl (by decide)
  refine ⟨by decide, ?_, ?_, by decide, ?_, ?_⟩
  · rw [hresult]
    decide +kernel
  · rw [hqueries]
    decide +kernel
  · rw [hfailed]
    decide +kernel
  · rw [hasked]
    decide +kernel

end Calculator.Evaluation
