import Calculator.Proofs.Evaluation.Span

/-!
# Parentheses that are open

The parentheses that are open in an evaluation are those that the tokens read so far have opened and
not closed (`foldlM_depthBehind?`).  So what is read of an expression that has a value is balanced
(`balanced_of_ok`).
-/

namespace Calculator.Evaluation

variable {σ : Type} {R : Resolver σ} {limit : Nat} {goal : Goal}

/-- How many parentheses are open behind a token, if so many are open in front of it.  There is no
such number if the token closes a parenthesis and none is open. -/
def depthBehind? (depth : Nat) (t : Token) : Option Nat :=
  match t.kind with
  | .lparen => some (depth + 1)
  | .rparen => if depth = 0 then none else some (depth - 1)
  | .number | .variable | .function | .operator | .eof => some depth

/-- Whether every parenthesis that tokens close was opened by one of them, and every parenthesis
that they open is closed. -/
def Balanced (ts : List Token) : Prop :=
  ts.foldlM depthBehind? 0 = some 0

theorem depthBehind?_of_kind {depth : Nat} {t : Token} (ho : t.kind ≠ .lparen)
    (hc : t.kind ≠ .rparen) : depthBehind? depth t = some depth := by
  unfold depthBehind?
  split
  · next h => exact absurd h ho
  · next h => exact absurd h hc
  all_goals rfl

theorem State.depthBehind?_of_reads {s next : State} {t : Token} (h : s.Reads limit goal t next) :
    depthBehind? s.frames.length t = some next.frames.length := by
  cases h with
  | number h => exact depthBehind?_of_kind (by simp [h]) (by simp [h])
  | name h => exact depthBehind?_of_kind (by simp [h]) (by simp [h])
  | group h | call h =>
    unfold depthBehind?
    rw [h]
    rfl
  | product h =>
    have hk := kind_of_productOp? (Goal.productOp?_eq_some h)
    exact depthBehind?_of_kind (by simp [hk]) (by simp [hk])
  | sum h =>
    have hk := kind_of_sumOp? (Goal.sumOp?_eq_some h)
    exact depthBehind?_of_kind (by simp [hk]) (by simp [hk])
  | close h =>
    unfold depthBehind?
    rw [h]
    simp

namespace Progress

variable {p q : Progress σ} {o : Outcome σ} {t : Token}

theorem depthBehind?_of_step (h : Step R limit goal p q) (ht : p.rest = t :: q.rest) :
    depthBehind? p.state.frames.length t = some q.state.frames.length := by
  cases h with
  | read h =>
    cases ht
    exact State.depthBehind?_of_reads h
  | answer h hx hy =>
    cases ht
    exact depthBehind?_of_kind (by simp [h]) (by simp [h])

/-- The tokens that are read account for the parentheses that are open. -/
theorem foldlM_depthBehind? (h : Steps R limit goal p q) :
    (between p q).foldlM depthBehind? p.state.frames.length = some q.state.frames.length := by
  refine between_induction (motive := fun us q =>
    us.foldlM depthBehind? p.state.frames.length = some q.state.frames.length) h rfl ?_
  intro us q r t _ _ ih hstep ht
  rw [List.foldlM_append, ih]
  show depthBehind? q.state.frames.length t >>= some = some r.state.frames.length
  rw [depthBehind?_of_step hstep ht]
  rfl

/-- A value is found behind a factor, with no parenthesis open and without the next token. -/
theorem value_of_ends {x : Float} (h : Ends R limit goal p o) (hx : o.result = .ok x) :
    (∃ y, p.state.stage = .value y) ∧ p.state.frames = [] ∧ o.cursor = p.cursor := by
  cases h with
  | @exhausted s =>
    dsimp only at hx
    unfold State.atEnd at hx
    split at hx
    · next hs hf => exact ⟨⟨_, hs⟩, hf, rfl⟩
    · cases hx
  | stop => exact ⟨⟨_, rfl⟩, rfl, rfl⟩
  | unanswered | unfit | fail | refuse => cases hx

/-- What is read of an expression that has a value is balanced, and it is not empty. -/
theorem balanced_of_ok {x : Float} (hp : p.state = {})
    (hx : (p.outcome R limit goal).result = .ok x) :
    p.cursor < (p.outcome R limit goal).cursor ∧
      Balanced (p.rest.take ((p.outcome R limit goal).cursor - p.cursor)) := by
  obtain ⟨q, hsteps, hends⟩ := @exists_steps_ends _ R limit goal p
  obtain ⟨⟨y, hstage⟩, hframes, hcursor⟩ := value_of_ends hends hx
  rw [hcursor]
  constructor
  · -- a step must have been taken, as nothing has a value in the beginning
    rcases hsteps.cases_head with rfl | ⟨r, hstep, hsteps'⟩
    · rw [hp] at hstage
      cases hstage
    · obtain ⟨-, -, hr⟩ := rest_of_step hstep
      have hle := (rest_of_between hsteps').2
      omega
  · have hdepth := foldlM_depthBehind? hsteps
    rw [hp, hframes] at hdepth
    exact hdepth

end Progress

end Calculator.Evaluation
