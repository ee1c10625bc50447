import Calculator.Evaluation.Cursor
import Calculator.Proofs.Evaluation.Depth
import Calculator.Proofs.Evaluation.Query
import Calculator.Proofs.Grammar.Draft
import Calculator.Resolver.Script

/-!
# Moving a cursor by hand

However a cursor is moved, it stays in front of some token up to the first end, whether its moves
succeed or fail (`inBounds_of_performAll`).  So every move finds the tokens it looks at, and does
what it should from wherever the moves before have left the cursor (`behaves_of_performAll`).
-/

namespace Calculator.Evaluation

variable {σ : Type} {R : Resolver σ} {limit : Nat} {goal : Goal}

/-! ### Evaluations in front of a token -/

theorem queryFailure_ne_noToken (t : Token) (f : Failure) :
    queryFailure t f ≠ .fault .noToken := by
  cases f with
  | error e => simp [queryFailure]
  | fault f =>
    simp only [queryFailure]
    split
    · simp
    · next h =>
      rintro hf
      cases hf
      exact h rfl

/-- No evaluation that has a next token fails for the lack of one. -/
theorem Progress.result_ne_noToken {p : Progress σ} {o : Outcome σ} (h : Ends R limit goal p o)
    (hp : p.rest ≠ []) : o.result ≠ .error (.fault .noToken) := by
  intro hr
  cases h with
  | exhausted => exact hp rfl
  | unanswered hk he =>
    cases hr
    rw [fst_query, answerValue_eq_error] at he
    rcases he with ⟨f, -, hf⟩ | ⟨-, fault, -, -, hf⟩
    · exact queryFailure_ne_noToken _ _ hf.symm
    · exact queryFailure_ne_noToken _ _ hf.symm
  | unfit hk hx he =>
    cases hr
    have := State.term_eq_error he
    cases this
  | fail h =>
    cases hr
    cases h with
    | number hk hx =>
      have := State.numberValue_eq_error hx
      cases this
    | factor hk hx hy =>
      have := State.term_eq_error hy
      cases this
    | apply hk hy =>
      obtain ⟨f, -, hcause⟩ := State.apply_eq_error hy
      rcases hcause with ⟨-, hf⟩ | ⟨-, -, hf⟩
      · cases hf
      · cases hf
    | close hk hy hz =>
      have := State.term_eq_error hz
      cases this
  | refuse h => cases hr
  | stop => cases hr

namespace Cursor

variable {c : Cursor} {t : Token}

/-! ### Cursors that have not gone beyond the first end -/

/-- Whether a cursor stands in front of a token up to the first end. -/
structure InBounds (c : Cursor) : Prop where
  terminated : isTerminated c.tokens = true
  index_le : c.index ≤ firstEnd c.tokens

theorem InBounds.exists_peek (h : c.InBounds) : ∃ t, c.tokens[c.index]? = some t := by
  have hlt := firstEnd_lt_length h.terminated
  have hle := h.index_le
  exact ⟨_, List.getElem?_eq_getElem (show c.index < c.tokens.length by omega)⟩

theorem InBounds.next (h : c.InBounds) (ht : c.tokens[c.index]? = some t) (hk : t.kind ≠ .eof) :
    c.next.InBounds :=
  ⟨h.terminated, succ_le_firstEnd h.index_le ht hk⟩

/-! ### Single moves -/

theorem peek_eq (ht : c.tokens[c.index]? = some t) : c.peek = .ok t := by
  unfold peek tokenAt
  rw [ht]

theorem previous_next (ht : c.tokens[c.index]? = some t) : c.next.previous = .ok t := by
  unfold previous tokenAt next
  simp [ht]

/-- There is a token before the next one; in front of all tokens that is the last one. -/
theorem InBounds.exists_previous (h : c.InBounds) : ∃ t, c.previous = .ok t := by
  have hlt := firstEnd_lt_length h.terminated
  have hle := h.index_le
  unfold previous tokenAt
  split
  · exact ⟨_, rfl⟩
  · next hnone =>
    rw [List.getElem?_eq_none_iff] at hnone
    split at hnone <;> omega

theorem advance_eq (ht : c.tokens[c.index]? = some t) :
    c.advance = if t.kind = .eof then (c.previous, c) else (.ok t, c.next) := by
  unfold advance
  simp only [peek_eq ht, previous_next ht]

theorem accept_eq (ht : c.tokens[c.index]? = some t) (kind : Token.Kind) (text : Option String) :
    c.accept kind text =
      if matchesKind kind t && (text.isNone || text == some t.text) then (.ok true, c.next)
      else (.ok false, c) := by
  unfold accept
  rw [peek_eq ht]

theorem matchesKind_iff {kind : Token.Kind} :
    matchesKind kind t = true ↔ t.kind = kind ∧ kind ≠ .eof := by
  unfold matchesKind
  rw [Bool.and_eq_true, bne_iff_ne, beq_iff_eq]
  constructor
  · rintro ⟨hend, rfl⟩
    exact ⟨rfl, hend⟩
  · rintro ⟨rfl, hend⟩
    exact ⟨hend, rfl⟩

theorem expect_eq (ht : c.tokens[c.index]? = some t) (kind : Token.Kind) (message : String) :
    c.expect kind message =
      if matchesKind kind t then (.ok t, c.next)
      else (.error (breachAt t (.stated message)), c) := by
  unfold expect
  rw [peek_eq ht]
  dsimp only
  split
  · next hk =>
    obtain ⟨rfl, hend⟩ := matchesKind_iff.mp hk
    rw [advance_eq ht, if_neg hend]
  · rfl

/-! ### What a move does -/

/-- What a move does in front of the token `t`: the answer that it gives, and the cursor behind it.
Looking leaves the cursor where it is; a token is passed if it is of the kind and has the spelling
that are asked for, and nothing is passed otherwise; nothing is of the kind of the end; and
something is read of an expression that has a value, with balanced parentheses. -/
def Does (c : Cursor) (t : Token) (answer : Except Failure Answer) (c' : Cursor) : Move → Prop
  | .peek => answer = .ok (.token t) ∧ c' = c
  | .previous => (∃ u, answer = .ok (.token u)) ∧ c' = c
  | .isAtEnd => answer = .ok (.flag (t.kind = .eof)) ∧ c' = c
  | .check kind => answer = .ok (.flag (t.kind = kind ∧ kind ≠ .eof)) ∧ c' = c
  | .advance => (∃ u, answer = .ok (.token u)) ∧ c' = if t.kind = .eof then c else c.next
  | .accept kind text =>
    if (t.kind = kind ∧ kind ≠ .eof) ∧ (text = none ∨ text = some t.text) then
      answer = .ok (.flag true) ∧ c' = c.next
    else answer = .ok (.flag false) ∧ c' = c
  | .expect kind message =>
    if t.kind = kind ∧ kind ≠ .eof then answer = .ok (.token t) ∧ c' = c.next
    else answer = .error (breachAt t (.stated message)) ∧ c' = c
  | .read _ => ∀ x, answer = .ok (.number x) →
    c.index < c'.index ∧ Balanced (c.tokens.extract c.index c'.index)

/-- How every move behaves that takes the cursor `c` to `c'` and gives an answer: the cursor is not
moved back and not beyond the first end, there is a token to look at, and the move does what it
should in front of that token. -/
structure Behaves (c : Cursor) (move : Move) (answer : Except Failure Answer) (c' : Cursor) :
    Prop where
  tokens : c'.tokens = c.tokens
  forward : c.index ≤ c'.index
  inBounds : c'.index ≤ firstEnd c.tokens
  inRange : answer ≠ .error (.fault .noToken)
  does : ∃ t, c.tokens[c.index]? = some t ∧ c.Does t answer c' move

/-- Moves that leave the cursor where it is or pass the next token. -/
theorem InBounds.behaves (h : c.InBounds) {c' : Cursor} {move : Move}
    {answer : Except Failure Answer} (ht : c.tokens[c.index]? = some t)
    (hc : c' = c ∨ t.kind ≠ .eof ∧ c' = c.next) (hr : answer ≠ .error (.fault .noToken))
    (hd : c.Does t answer c' move) : c.Behaves move answer c' := by
  rcases hc with rfl | ⟨hk, rfl⟩
  · exact ⟨rfl, Nat.le_refl _, h.index_le, hr, t, ht, hd⟩
  · exact ⟨rfl, Nat.le_succ _, (h.next ht hk).index_le, hr, t, ht, hd⟩

theorem InBounds.behaves_accept (h : c.InBounds) (kind : Token.Kind) (text : Option String) :
    c.Behaves (.accept kind text) ((c.accept kind text).1.map .flag) (c.accept kind text).2 := by
  obtain ⟨t, ht⟩ := h.exists_peek
  have hiff : (matchesKind kind t && (text.isNone || text == some t.text)) = true ↔
      (t.kind = kind ∧ kind ≠ .eof) ∧ (text = none ∨ text = some t.text) := by
    rw [Bool.and_eq_true, Bool.or_eq_true, matchesKind_iff, Option.isNone_iff_eq_none, beq_iff_eq]
  rw [accept_eq ht]
  split
  · next hm =>
    obtain ⟨⟨rfl, hend⟩, -⟩ := hiff.mp hm
    refine h.behaves ht (.inr ⟨hend, rfl⟩) (by simp [Except.map]) ?_
    rw [Does, if_pos (hiff.mp hm)]
    exact ⟨rfl, rfl⟩
  · next hm =>
    refine h.behaves ht (.inl rfl) (by simp [Except.map]) ?_
    rw [Does, if_neg (mt hiff.mpr hm)]
    exact ⟨rfl, rfl⟩

theorem InBounds.behaves_expect (h : c.InBounds) (kind : Token.Kind) (message : String) :
    c.Behaves (.expect kind message) ((c.expect kind message).1.map .token)
      (c.expect kind message).2 := by
  obtain ⟨t, ht⟩ := h.exists_peek
  rw [expect_eq ht]
  split
  · next hm =>
    obtain ⟨rfl, hend⟩ := matchesKind_iff.mp hm
    refine h.behaves ht (.inr ⟨hend, rfl⟩) (by simp [Except.map]) ?_
    rw [Does, if_pos ⟨rfl, hend⟩]
    exact ⟨rfl, rfl⟩
  · next hm =>
    refine h.behaves ht (.inl rfl) (by simp [Except.map, breachAt]) ?_
    rw [Does, if_neg (mt matchesKind_iff.mpr hm)]
    exact ⟨rfl, rfl⟩

theorem InBounds.behaves_advance (h : c.InBounds) :
    c.Behaves .advance (c.advance.1.map .token) c.advance.2 := by
  obtain ⟨t, ht⟩ := h.exists_peek
  rw [advance_eq ht]
  split
  · next hk =>
    obtain ⟨u, hu⟩ := h.exists_previous
    rw [hu]
    exact h.behaves ht (.inl rfl) (by simp [Except.map]) ⟨⟨u, rfl⟩, (if_pos hk).symm⟩
  · next hk =>
    exact h.behaves ht (.inr ⟨hk, rfl⟩) (by simp [Except.map]) ⟨⟨t, rfl⟩, (if_neg hk).symm⟩

/-- A part of an expression is read as far as its evaluation comes. -/
theorem InBounds.behaves_read (h : c.InBounds) (R : Resolver σ) (limit : Nat) (log : Transcript σ)
    (goal : Goal) :
    let outcome := run R limit goal {} c.index log (c.tokens.drop c.index)
    c.Behaves (.read goal) (outcome.result.map .number) { c with index := outcome.cursor } := by
  intro outcome
  let p : Progress σ := ⟨{}, c.index, log, c.tokens.drop c.index⟩
  have hp : p.rest = c.tokens.drop p.cursor := rfl
  have hforward : c.index ≤ outcome.cursor := Progress.cursor_le_outcome p
  have hbounds : outcome.cursor ≤ firstEnd c.tokens := Progress.cursor_le_firstEnd hp h.index_le
  obtain ⟨t, ht⟩ := h.exists_peek
  refine ⟨rfl, hforward, hbounds, ?_, t, ht, fun x hx => ?_⟩
  · -- wherever the evaluation ends, it ends in front of a token
    intro hnone
    obtain ⟨q, hsteps, hends⟩ := @Progress.exists_steps_ends _ R limit goal p
    obtain ⟨u, us, hrest⟩ := Progress.exists_rest_of_steps h.terminated hp h.index_le hsteps
    have hne : outcome.result ≠ .error (.fault .noToken) :=
      Progress.result_ne_noToken hends (by simp [hrest])
    cases hr : outcome.result with
    | error e =>
      rw [hr] at hnone hne
      exact hne (congrArg _ (Except.error.inj hnone))
    | ok x =>
      rw [hr] at hnone
      cases hnone
  · cases hr : outcome.result with
    | error e =>
      rw [hr] at hx
      cases hx
    | ok y =>
      have hok : (p.outcome R limit goal).result = .ok y := hr
      exact Progress.balanced_of_ok rfl hok

/-- From wherever a cursor has been moved, every move behaves. -/
theorem InBounds.behaves_perform (h : c.InBounds) (R : Resolver σ) (limit : Nat)
    (log : Transcript σ) (move : Move) :
    c.Behaves move (c.perform R limit log move).1 (c.perform R limit log move).2.1 := by
  obtain ⟨t, ht⟩ := h.exists_peek
  cases move with
  | peek =>
    rw [perform, peek_eq ht]
    exact h.behaves ht (.inl rfl) (by simp [Except.map]) ⟨rfl, rfl⟩
  | previous =>
    obtain ⟨u, hu⟩ := h.exists_previous
    rw [perform, hu]
    exact h.behaves ht (.inl rfl) (by simp [Except.map]) ⟨⟨u, rfl⟩, rfl⟩
  | isAtEnd =>
    rw [perform, peek_eq ht]
    exact h.behaves ht (.inl rfl) (by simp [Except.map]) ⟨rfl, rfl⟩
  | check kind =>
    have hflag : matchesKind kind t = decide (t.kind = kind ∧ kind ≠ .eof) := by
      rw [Bool.eq_iff_iff, matchesKind_iff, decide_eq_true_iff]
    rw [perform, peek_eq ht]
    refine h.behaves ht (.inl rfl) (by simp [Except.map]) ⟨?_, rfl⟩
    rw [← hflag]
    rfl
  | advance => exact h.behaves_advance
  | accept kind text => exact h.behaves_accept kind text
  | expect kind message => exact h.behaves_expect kind message
  | read goal => exact h.behaves_read R limit log goal

/-! ### Sequences of moves -/

/-- Makes moves one after the other, whether they fail or not: the cursor behind them, and what is
left behind by them. -/
def performAll (R : Resolver σ) (limit : Nat) (c : Cursor) (log : Transcript σ) :
    List Move → Cursor × Transcript σ
  | [] => (c, log)
  | move :: moves =>
    let (_, c, log) := c.perform R limit log move
    c.performAll R limit log moves

theorem Behaves.inBounds_next {c' : Cursor} {move : Move} {answer : Except Failure Answer}
    (h : c.InBounds) (hb : c.Behaves move answer c') : c'.InBounds := by
  constructor
  · rw [hb.tokens]
    exact h.terminated
  · rw [hb.tokens]
    exact hb.inBounds

/-- Moves keep a cursor in front of some token up to the first end. -/
theorem inBounds_of_performAll (h : c.InBounds) (R : Resolver σ) (limit : Nat)
    (log : Transcript σ) (moves : List Move) :
    (c.performAll R limit log moves).1.InBounds ∧
      (c.performAll R limit log moves).1.tokens = c.tokens := by
  induction moves generalizing c log with
  | nil => exact ⟨h, rfl⟩
  | cons move moves ih =>
    have hb := h.behaves_perform R limit log move
    obtain ⟨hin, htokens⟩ := ih (hb.inBounds_next h) (c.perform R limit log move).2.2
    exact ⟨hin, htokens.trans hb.tokens⟩

/-- **A cursor behaves however it was moved before**: from the front of all tokens, after any moves,
successful or not, it stands no further than at the first end, and the next move behaves. -/
theorem behaves_of_performAll (R : Resolver σ) (limit : Nat) (state : σ) (tokens : List Token)
    (hend : isTerminated tokens = true) (moves : List Move) (move : Move) :
    let before := performAll R limit { tokens } { state } moves
    let after := before.1.perform R limit before.2 move
    before.1.tokens = tokens ∧ before.1.index ≤ firstEnd tokens ∧
      before.1.Behaves move after.1 after.2.1 := by
  intro before after
  have hstart : InBounds { tokens } := ⟨hend, Nat.zero_le _⟩
  obtain ⟨hin, htokens⟩ := inBounds_of_performAll hstart R limit { state } moves
  refine ⟨htokens, ?_, hin.behaves_perform R limit before.2 move⟩
  have hle := hin.index_le
  rw [htokens] at hle
  exact hle

/-- The tokens of `x*(`, where an expression is missing. -/
def productWithoutExpression : List Token :=
  [Grammar.spelled .variable 'x' 0, Grammar.spelled .operator '*' 1, Grammar.spelled .lparen '(' 2,
    Token.atEnd 3]

/-- Moves that fail, one of them in the middle of the expression, lead to the end, and the end is
not accepted as an end. -/
theorem accept_end_of_performAll :
    let answers : Script := { steps := [.ok (.float 2.0)] }
    let moves : List Move := [.expect .lparen "expected '('", .read .expression, .previous,
      .read .term]
    let before := performAll Script.resolver 1 { tokens := productWithoutExpression }
      { state := answers } moves
    let after := before.1.perform Script.resolver 1 before.2 (.accept .eof none)
    isTerminated productWithoutExpression = true ∧ before.1.index = 3 ∧
      after.1 = .ok (.flag false) ∧ after.2.1 = before.1 := by
  intro answers moves before after
  have hb := (behaves_of_performAll Script.resolver 1 answers productWithoutExpression rfl moves
    (.accept .eof none)).2.2
  obtain ⟨t, ht, hd⟩ := hb.does
  rw [Does, if_neg fun h => h.1.2 rfl] at hd
  exact ⟨rfl, by decide +kernel, hd⟩

end Cursor

end Calculator.Evaluation
