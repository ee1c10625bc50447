import Calculator.Evaluation
import Calculator.Proofs.Results
import Calculator.Proofs.Trig.Angle

/-!
# What is done about one token

`State.on` decides what is done about the next token.  `State.Reads`, `State.Fails` and
`State.Refuses` say the same as rules, one for each way it can go, and `on_eq_read_iff`,
`on_eq_fail_iff`, `on_eq_refuse_iff`, `on_eq_ask_iff` and `on_eq_stop_iff` tie each action to its
rules.  Proofs about evaluations go through these rules and do not open `State.on`.
-/

namespace Calculator.Evaluation

/-- What is read inside the open parentheses: whole expressions, whatever is read outside. -/
def Goal.inside (goal : Goal) : List Frame → Goal
  | [] => goal
  | _ :: _ => .expression

/-! ### Operators -/

section Operators

variable {goal : Goal} {t : Token}

theorem kind_of_productOp? {op : ProductOp} (h : productOp? t = some op) : t.kind = .operator := by
  unfold productOp? at h
  split at h
  · next hc => exact hc.1
  · split at h
    · next hc => exact hc.1
    · simp at h

theorem kind_of_sumOp? {op : SumOp} (h : sumOp? t = some op) : t.kind = .operator := by
  unfold sumOp? at h
  split at h
  · next hc => exact hc.1
  · split at h
    · next hc => exact hc.1
    · simp at h

/-- No operator joins terms and factors. -/
theorem productOp?_eq_none_of_sumOp? {op : SumOp} (h : sumOp? t = some op) :
    productOp? t = none := by
  unfold sumOp? at h
  split at h
  · next hc => simp [productOp?, hc.2]
  · split at h
    · next hc => simp [productOp?, hc.2]
    · simp at h

theorem productOp?_eq_none_of_kind (h : t.kind ≠ .operator) : productOp? t = none := by
  cases hop : productOp? t with
  | none => rfl
  | some op => exact absurd (kind_of_productOp? hop) h

theorem sumOp?_eq_none_of_kind (h : t.kind ≠ .operator) : sumOp? t = none := by
  cases hop : sumOp? t with
  | none => rfl
  | some op => exact absurd (kind_of_sumOp? hop) h

/-- An operator for a goal is an operator. -/
theorem Goal.productOp?_eq_some {op : ProductOp} (h : goal.productOp? t = some op) :
    Evaluation.productOp? t = some op := by
  cases goal <;> simp_all [Goal.productOp?]

theorem Goal.sumOp?_eq_some {op : SumOp} (h : goal.sumOp? t = some op) :
    Evaluation.sumOp? t = some op := by
  cases goal <;> simp_all [Goal.sumOp?]

theorem Goal.productOp?_eq_none (h : Evaluation.productOp? t = none) :
    goal.productOp? t = none := by
  cases goal <;> simp_all [Goal.productOp?]

theorem Goal.sumOp?_eq_none (h : Evaluation.sumOp? t = none) : goal.sumOp? t = none := by
  cases goal <;> simp_all [Goal.sumOp?]

end Operators

/-! ### Results -/

section Results

theorem ofExcept_eq_read {r : Except Failure State} {next : State} :
    Action.ofExcept r = .read next ↔ r = .ok next := by
  cases r <;> simp [Action.ofExcept]

theorem ofExcept_eq_fail {r : Except Failure State} {e : Failure} :
    Action.ofExcept r = .fail e ↔ r = .error e := by
  cases r <;> simp [Action.ofExcept]

theorem ofExcept_ne_ask {r : Except Failure State} : Action.ofExcept r ≠ .ask := by
  cases r <;> simp [Action.ofExcept]

theorem ofExcept_ne_refuse {r : Except Failure State} {e : Failure} :
    Action.ofExcept r ≠ .refuse e := by
  cases r <;> simp [Action.ofExcept]

theorem ofExcept_ne_stop {r : Except Failure State} {x : Float} :
    Action.ofExcept r ≠ .stop x := by
  cases r <;> simp [Action.ofExcept]

end Results

namespace State

variable {limit : Nat} {goal : Goal} {s next : State} {t : Token} {e : Failure}

theorem factor_eq_ok {x : Float} :
    s.factor x = .ok next ↔ ∃ y, s.pending.term x = .ok y ∧
      next = ⟨.value y, { s.pending with product := none }, s.frames⟩ := by
  unfold factor
  cases s.pending.term x with
  | error e => simp [Except.map]
  | ok y => simp [Except.map, eq_comm]

theorem factor_eq_error {x : Float} : s.factor x = .error e ↔ s.pending.term x = .error e := by
  unfold factor
  cases s.pending.term x <;> simp [Except.map]

theorem opened_eq_ok {opener : Opener} :
    s.opened limit opener = .ok next ↔
      s.frames.length < limit ∧ next = ⟨.operand, {}, ⟨opener, s.pending⟩ :: s.frames⟩ := by
  unfold opened
  split
  · next h => simp [h, eq_comm]
  · next h => simp [h]

theorem opened_eq_error {opener : Opener} :
    s.opened limit opener = .error e ↔ limit ≤ s.frames.length ∧ e = tooDeep := by
  unfold opened
  split
  · next h => simp [Nat.not_le.mpr h]
  · next h => simp [Nat.not_lt.mp h, eq_comm]

/-! ### Tokens that are read -/

/-- The ways in which a token is read, from the state before it to the state behind it.  Variables
are read as well, but what is behind them depends on their values. -/
inductive Reads (limit : Nat) (goal : Goal) : State → Token → State → Prop
  | number {t pending frames x y} (h : t.kind = .number) (hx : numberValue t = .ok x)
      (hy : pending.term x = .ok y) :
      Reads limit goal ⟨.operand, pending, frames⟩ t
        ⟨.value y, { pending with product := none }, frames⟩
  | name {t pending frames} (h : t.kind = .function) :
      Reads limit goal ⟨.operand, pending, frames⟩ t ⟨.argument t, pending, frames⟩
  | group {t pending frames} (h : t.kind = .lparen) (room : frames.length < limit) :
      Reads limit goal ⟨.operand, pending, frames⟩ t ⟨.operand, {}, ⟨.group, pending⟩ :: frames⟩
  | call {t f pending frames} (h : t.kind = .lparen) (room : frames.length < limit) :
      Reads limit goal ⟨.argument f, pending, frames⟩ t
        ⟨.operand, {}, ⟨.call f, pending⟩ :: frames⟩
  | product {t x op pending frames} (h : (goal.inside frames).productOp? t = some op) :
      Reads limit goal ⟨.value x, pending, frames⟩ t
        ⟨.operand, { pending with product := some (x, op) }, frames⟩
  | sum {t x op pending frames} (h : (goal.inside frames).sumOp? t = some op) :
      Reads limit goal ⟨.value x, pending, frames⟩ t
        ⟨.operand, { sum := some (pending.expression x, op) }, frames⟩
  | close {t x y z pending opener outer frames} (h : t.kind = .rparen)
      (hy : opener.apply (pending.expression x) = .ok y) (hz : outer.term y = .ok z) :
      Reads limit goal ⟨.value x, pending, ⟨opener, outer⟩ :: frames⟩ t
        ⟨.value z, { outer with product := none }, frames⟩

theorem joined?_eq_some {x : Float} :
    s.joined? goal x t = some next ↔
      (∃ op, goal.productOp? t = some op ∧
        next = ⟨.operand, { s.pending with product := some (x, op) }, s.frames⟩) ∨
      (∃ op, goal.sumOp? t = some op ∧
        next = ⟨.operand, { sum := some (s.pending.expression x, op) }, s.frames⟩) := by
  unfold joined?
  cases hp : goal.productOp? t with
  | some op =>
    have hs : goal.sumOp? t = none := by
      cases hs : goal.sumOp? t with
      | none => rfl
      | some op' =>
        have := productOp?_eq_none_of_sumOp? (Goal.sumOp?_eq_some hs)
        rw [Goal.productOp?_eq_some hp] at this
        cases this
    simp [hs, @eq_comm _ _ next]
  | none => simp [@eq_comm _ _ next]

theorem joined?_eq_none {x : Float} :
    s.joined? goal x t = none ↔ goal.productOp? t = none ∧ goal.sumOp? t = none := by
  unfold joined?
  cases goal.productOp? t <;> simp

/-- A parenthesis that closes is no operator. -/
theorem joined?_eq_none_of_rparen {x : Float} (h : t.kind = .rparen) :
    s.joined? goal x t = none := by
  rw [joined?_eq_none]
  have hk : t.kind ≠ .operator := by simp [h]
  exact ⟨Goal.productOp?_eq_none (productOp?_eq_none_of_kind hk),
    Goal.sumOp?_eq_none (sumOp?_eq_none_of_kind hk)⟩

theorem reads_of_joined? {x : Float} {pending : Pending} {frames : List Frame}
    (h : joined? ⟨.value x, pending, frames⟩ (goal.inside frames) x t = some next) :
    Reads limit goal ⟨.value x, pending, frames⟩ t next := by
  rcases joined?_eq_some.mp h with ⟨op, hop, rfl⟩ | ⟨op, hop, rfl⟩
  · exact .product hop
  · exact .sum hop

theorem reads_of_on (h : s.on limit goal t = .read next) : Reads limit goal s t next := by
  obtain ⟨stage, pending, frames⟩ := s
  cases stage with
  | operand =>
    simp only [on, onOperand] at h
    split at h
    · next hk =>
      obtain ⟨room, rfl⟩ := opened_eq_ok.mp (ofExcept_eq_read.mp h)
      exact .group hk room
    · next hk =>
      obtain ⟨x, hx, hf⟩ := bind_eq_ok.mp (ofExcept_eq_read.mp h)
      obtain ⟨y, hy, rfl⟩ := factor_eq_ok.mp hf
      exact .number hk hx hy
    · cases h
    · next hk =>
      cases h
      exact .name hk
    all_goals cases h
  | argument f =>
    simp only [on, onArgument] at h
    split at h
    · next hk =>
      obtain ⟨room, rfl⟩ := opened_eq_ok.mp (ofExcept_eq_read.mp h)
      exact .call hk room
    · cases h
  | value x =>
    cases frames with
    | nil =>
      simp only [on, onValue] at h
      split at h
      · next hj =>
        cases h
        exact reads_of_joined? hj
      · split at h <;> cases h
    | cons frame frames =>
      simp only [on, onValue] at h
      split at h
      · next hj =>
        cases h
        exact reads_of_joined? hj
      · split at h
        · next hk =>
          obtain ⟨y, hy, hf⟩ := bind_eq_ok.mp (ofExcept_eq_read.mp h)
          obtain ⟨z, hz, rfl⟩ := factor_eq_ok.mp hf
          exact .close hk hy hz
        · cases h

theorem on_value_of_joined? {x : Float} {pending : Pending} {frames : List Frame}
    (h : joined? ⟨.value x, pending, frames⟩ (goal.inside frames) x t = some next) :
    on ⟨.value x, pending, frames⟩ limit goal t = .read next := by
  cases frames <;> simp only [on, onValue] <;> rw [Goal.inside] at h <;> rw [h]

theorem on_eq_read_iff : s.on limit goal t = .read next ↔ Reads limit goal s t next := by
  refine ⟨reads_of_on, fun h => ?_⟩
  cases h with
  | number h hx hy =>
    simp only [on, onOperand, h, hx]
    exact ofExcept_eq_read.mpr (factor_eq_ok.mpr ⟨_, hy, rfl⟩)
  | name h => simp only [on, onOperand, h]
  | group h room =>
    simp only [on, onOperand, h]
    exact ofExcept_eq_read.mpr (opened_eq_ok.mpr ⟨room, rfl⟩)
  | call h room =>
    simp only [on, onArgument, h, ↓reduceIte]
    exact ofExcept_eq_read.mpr (opened_eq_ok.mpr ⟨room, rfl⟩)
  | product h => exact on_value_of_joined? (joined?_eq_some.mpr (.inl ⟨_, h, rfl⟩))
  | sum h => exact on_value_of_joined? (joined?_eq_some.mpr (.inr ⟨_, h, rfl⟩))
  | close h hy hz =>
    simp only [on, onValue, joined?_eq_none_of_rparen h, h, ↓reduceIte, hy]
    exact ofExcept_eq_read.mpr (factor_eq_ok.mpr ⟨_, hz, rfl⟩)

/-! ### Tokens with which an evaluation fails -/

/-- The ways in which an evaluation fails with a token that keeps to the grammar. -/
inductive Fails (limit : Nat) : State → Token → Failure → Prop
  | number {t pending frames e} (h : t.kind = .number) (hx : numberValue t = .error e) :
      Fails limit ⟨.operand, pending, frames⟩ t e
  | factor {t pending frames x e} (h : t.kind = .number) (hx : numberValue t = .ok x)
      (hy : pending.term x = .error e) : Fails limit ⟨.operand, pending, frames⟩ t e
  | group {t pending frames} (h : t.kind = .lparen) (full : limit ≤ frames.length) :
      Fails limit ⟨.operand, pending, frames⟩ t tooDeep
  | call {t f pending frames} (h : t.kind = .lparen) (full : limit ≤ frames.length) :
      Fails limit ⟨.argument f, pending, frames⟩ t tooDeep
  | apply {t x pending opener outer frames e} (h : t.kind = .rparen)
      (hy : opener.apply (pending.expression x) = .error e) :
      Fails limit ⟨.value x, pending, ⟨opener, outer⟩ :: frames⟩ t e
  | close {t x y pending opener outer frames e} (h : t.kind = .rparen)
      (hy : opener.apply (pending.expression x) = .ok y) (hz : outer.term y = .error e) :
      Fails limit ⟨.value x, pending, ⟨opener, outer⟩ :: frames⟩ t e

theorem fails_of_on (h : s.on limit goal t = .fail e) : Fails limit s t e := by
  obtain ⟨stage, pending, frames⟩ := s
  cases stage with
  | operand =>
    simp only [on, onOperand] at h
    split at h
    · next hk =>
      obtain ⟨full, rfl⟩ := opened_eq_error.mp (ofExcept_eq_fail.mp h)
      exact .group hk full
    · next hk =>
      rcases bind_eq_error.mp (ofExcept_eq_fail.mp h) with hx | ⟨x, hx, hf⟩
      · exact .number hk hx
      · exact .factor hk hx (factor_eq_error.mp hf)
    all_goals cases h
  | argument f =>
    simp only [on, onArgument] at h
    split at h
    · next hk =>
      obtain ⟨full, rfl⟩ := opened_eq_error.mp (ofExcept_eq_fail.mp h)
      exact .call hk full
    · cases h
  | value x =>
    cases frames with
    | nil =>
      simp only [on, onValue] at h
      split at h
      · cases h
      · split at h <;> cases h
    | cons frame frames =>
      simp only [on, onValue] at h
      split at h
      · cases h
      · split at h
        · next hk =>
          rcases bind_eq_error.mp (ofExcept_eq_fail.mp h) with hy | ⟨y, hy, hf⟩
          · exact .apply hk hy
          · exact .close hk hy (factor_eq_error.mp hf)
        · cases h

theorem on_eq_fail_iff : s.on limit goal t = .fail e ↔ Fails limit s t e := by
  refine ⟨fails_of_on, fun h => ?_⟩
  cases h with
  | number h hx =>
    simp only [on, onOperand, h, hx]
    rfl
  | factor h hx hy =>
    simp only [on, onOperand, h, hx]
    exact ofExcept_eq_fail.mpr (factor_eq_error.mpr hy)
  | group h full =>
    simp only [on, onOperand, h]
    exact ofExcept_eq_fail.mpr (opened_eq_error.mpr ⟨full, rfl⟩)
  | call h full =>
    simp only [on, onArgument, h, ↓reduceIte]
    exact ofExcept_eq_fail.mpr (opened_eq_error.mpr ⟨full, rfl⟩)
  | apply h hy =>
    simp only [on, onValue, joined?_eq_none_of_rparen h, h, ↓reduceIte, hy]
    rfl
  | close h hy hz =>
    simp only [on, onValue, joined?_eq_none_of_rparen h, h, ↓reduceIte, hy]
    exact ofExcept_eq_fail.mpr (factor_eq_error.mpr hz)

/-! ### What fails -/

theorem numberValue_eq_error (h : numberValue t = .error e) :
    e = .error { cause := .malformedNumber t.text, pos := some t.pos } := by
  unfold numberValue at h
  split at h
  · cases h
  · cases h
    rfl

/-- A factor fits the factors before it unless it is a divisor of zero. -/
theorem term_eq_error {pending : Pending} {x : Float} (h : pending.term x = .error e) :
    e = .error { cause := .divisionByZero } := by
  unfold Pending.term at h
  split at h
  · cases h
  · next left op _ =>
    cases op with
    | multiply => cases h
    | divide =>
      simp only [ProductOp.apply] at h
      split at h
      · cases h
        rfl
      · cases h

/-- Only functions fail when a parenthesis is closed: those that are not known, and those of an
infinite angle. -/
theorem apply_eq_error {opener : Opener} {x : Float} (h : opener.apply x = .error e) :
    ∃ function, opener = .call function ∧
      (Trig.ofName? function.text = none ∧
          e = .error { cause := .unknownFunction function.text, pos := some function.pos } ∨
        (∃ f, Trig.ofName? function.text = some f) ∧ x.isInf = true ∧
          e = .fault .infiniteAngle) := by
  cases opener with
  | group => cases h
  | call function =>
    refine ⟨function, rfl, ?_⟩
    simp only [Opener.apply] at h
    split at h
    · next f hf =>
      obtain ⟨fault, hx, rfl⟩ := mapError_eq_error.mp h
      obtain ⟨rfl, hinf⟩ := (Trig.ofDegrees_eq_error_iff f x fault).mp hx
      exact .inr ⟨⟨f, hf⟩, hinf, rfl⟩
    · next hf =>
      cases h
      exact .inl ⟨hf, rfl⟩

/-! ### Tokens that break the grammar -/

/-- The ways in which a token breaks the grammar. -/
inductive Refuses (goal : Goal) : State → Token → Error.Breach → Prop
  | operand {t pending frames} (h : t.kind = .operator ∨ t.kind = .rparen ∨ t.kind = .eof) :
      Refuses goal ⟨.operand, pending, frames⟩ t (.unexpectedToken t.text)
  | argument {t f pending frames} (h : t.kind ≠ .lparen) :
      Refuses goal ⟨.argument f, pending, frames⟩ t .noArgument
  | trailing {t x pending} (hg : goal = .whole) (h : t.kind ≠ .eof)
      (hp : productOp? t = none) (hs : sumOp? t = none) :
      Refuses goal ⟨.value x, pending, []⟩ t (.unexpectedToken t.text)
  | unclosed {t x pending frame frames} (h : t.kind ≠ .rparen)
      (hp : productOp? t = none) (hs : sumOp? t = none) :
      Refuses goal ⟨.value x, pending, frame :: frames⟩ t frame.opener.breach

theorem refuses_of_on (h : s.on limit goal t = .refuse e) :
    ∃ breach, e = breachAt t breach ∧ Refuses goal s t breach := by
  obtain ⟨stage, pending, frames⟩ := s
  cases stage with
  | operand =>
    simp only [on, onOperand] at h
    split at h
    · exact absurd h ofExcept_ne_refuse
    · exact absurd h ofExcept_ne_refuse
    · cases h
    · cases h
    all_goals
      next hk =>
      cases h
      exact ⟨_, rfl, .operand (by simp [hk])⟩
  | argument f =>
    simp only [on, onArgument] at h
    split at h
    · exact absurd h ofExcept_ne_refuse
    · next hk =>
      cases h
      exact ⟨_, rfl, .argument hk⟩
  | value x =>
    cases frames with
    | nil =>
      simp only [on, onValue] at h
      split at h
      · cases h
      · next hj =>
        split at h
        · next hg =>
          cases h
          obtain ⟨rfl, hk⟩ := hg
          exact ⟨_, rfl, .trailing rfl hk (joined?_eq_none.mp hj).1 (joined?_eq_none.mp hj).2⟩
        · cases h
    | cons frame frames =>
      simp only [on, onValue] at h
      split at h
      · cases h
      · next hj =>
        split at h
        · exact absurd h ofExcept_ne_refuse
        · next hk =>
          cases h
          exact ⟨_, rfl, .unclosed hk (joined?_eq_none.mp hj).1 (joined?_eq_none.mp hj).2⟩

theorem on_eq_refuse_iff :
    s.on limit goal t = .refuse e ↔ ∃ breach, e = breachAt t breach ∧ Refuses goal s t breach := by
  refine ⟨refuses_of_on, ?_⟩
  rintro ⟨breach, rfl, h⟩
  cases h with
  | operand h => rcases h with h | h | h <;> simp only [on, onOperand, h] <;> rfl
  | argument h => simp only [on, onArgument, h, ↓reduceIte]
  | @trailing _ x pending hg h hp hs =>
    subst hg
    have hj : joined? ⟨.value x, pending, []⟩ .whole x t = none :=
      joined?_eq_none.mpr ⟨hp, hs⟩
    simp only [on, onValue, hj, h, ne_eq, not_false_eq_true, and_self, ↓reduceIte]
    rfl
  | @unclosed _ x pending frame frames h hp hs =>
    have hj : joined? ⟨.value x, pending, frame :: frames⟩ .expression x t = none :=
      joined?_eq_none.mpr ⟨hp, hs⟩
    simp only [on, onValue, hj, h, ↓reduceIte]

/-! ### Variables, and where reading stops -/

theorem on_eq_ask_iff :
    s.on limit goal t = .ask ↔ s.stage = .operand ∧ t.kind = .variable := by
  obtain ⟨stage, pending, frames⟩ := s
  cases stage with
  | operand =>
    simp only [on, onOperand, true_and]
    split
    all_goals
      next hk =>
      simp [hk, ofExcept_ne_ask]
  | argument f =>
    simp only [on, onArgument]
    split
    · simp [ofExcept_ne_ask]
    · simp
  | value x =>
    cases frames with
    | nil =>
      simp only [on, onValue]
      split
      · simp
      · split <;> simp
    | cons frame frames =>
      simp only [on, onValue]
      split
      · simp
      · split
        · simp [ofExcept_ne_ask]
        · simp

theorem stop_of_on {x : Float} (h : s.on limit goal t = .stop x) :
    ∃ y pending, s = ⟨.value y, pending, []⟩ ∧ x = pending.expression y ∧
      goal.productOp? t = none ∧ goal.sumOp? t = none ∧ (goal = .whole → t.kind = .eof) := by
  obtain ⟨stage, pending, frames⟩ := s
  cases stage with
  | operand =>
    simp only [on, onOperand] at h
    split at h
    · exact absurd h ofExcept_ne_stop
    · exact absurd h ofExcept_ne_stop
    all_goals cases h
  | argument f =>
    simp only [on, onArgument] at h
    split at h
    · exact absurd h ofExcept_ne_stop
    · cases h
  | value y =>
    cases frames with
    | nil =>
      simp only [on, onValue] at h
      split at h
      · cases h
      · next hj =>
        split at h
        · cases h
        · next hg =>
          cases h
          obtain ⟨hp, hs⟩ := joined?_eq_none.mp hj
          exact ⟨y, pending, rfl, rfl, hp, hs,
            fun hw => Decidable.byContradiction fun hk => hg ⟨hw, hk⟩⟩
    | cons frame frames =>
      simp only [on, onValue] at h
      split at h
      · cases h
      · split at h
        · exact absurd h ofExcept_ne_stop
        · cases h

theorem on_eq_stop_iff {x : Float} :
    s.on limit goal t = .stop x ↔
      ∃ y pending, s = ⟨.value y, pending, []⟩ ∧ x = pending.expression y ∧
        goal.productOp? t = none ∧ goal.sumOp? t = none ∧ (goal = .whole → t.kind = .eof) := by
  refine ⟨stop_of_on, ?_⟩
  rintro ⟨y, pending, rfl, rfl, hp, hs, hw⟩
  have hj : joined? ⟨.value y, pending, []⟩ goal y t = none := joined?_eq_none.mpr ⟨hp, hs⟩
  have hg : ¬ (goal = .whole ∧ t.kind ≠ .eof) := fun hg => hg.2 (hw hg.1)
  simp only [on, onValue, hj, hg, ↓reduceIte]

/-! ### Behind a value -/

/-- Before anything but an operator between factors, only the value of what stands in the innermost
parenthesis counts. -/
theorem on_value_eq (hp : productOp? t = none) (x : Float) (pending : Pending)
    (frames : List Frame) :
    on ⟨.value x, pending, frames⟩ limit goal t =
      on ⟨.value (pending.expression x), {}, frames⟩ limit goal t := by
  have hj : ∀ goal : Goal, joined? ⟨.value x, pending, frames⟩ goal x t =
      joined? ⟨.value (pending.expression x), {}, frames⟩ goal (pending.expression x) t := by
    intro goal
    simp only [joined?, Goal.productOp?_eq_none hp]
    rfl
  cases frames with
  | nil =>
    simp only [on, onValue, hj]
    rfl
  | cons frame frames =>
    simp only [on, onValue, hj]
    rfl

end State

end Calculator.Evaluation
