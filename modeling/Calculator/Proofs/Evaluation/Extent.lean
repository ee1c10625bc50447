import Calculator.Evaluation.Cursor
import Calculator.Proofs.Evaluation.Acceptance
import Calculator.Proofs.Evaluation.Moves
import Calculator.Proofs.Evaluation.Nesting
import Calculator.Proofs.Evaluation.Replay
import Calculator.Proofs.Grammar.Part

/-!
# How far an evaluation reads

An evaluation that has a value has read a part of the kind that was asked for (`derives_of_ok`), and
it has stopped in front of a token that does not continue it (`next_of_ok`).  So it has read as much
as there is of the part, and wherever a part stands, with nothing behind that continues it, it is
read to its end (`outcome_of_part`).  A term is therefore read as its factors are, one after the
other, and an expression as its terms are (`Operands`), and their values are combined from the left
(`perform_read_exact`).
-/

namespace Calculator.Evaluation

open Grammar

variable {σ : Type} {R : Resolver σ} {limit : Nat} {goal : Goal}

/-! ### What has been read -/

theorem State.Follows.isFinished {s : State} {d : Draft} {x : Float} (h : s.Follows d)
    (hs : s.stage = .value x) (hf : s.frames = []) : d.IsFinished := by
  cases h with
  | operand | argument => cases hs
  | value hl =>
    cases hf
    cases hl
    exact ⟨_, _, rfl⟩

namespace Progress

variable {p q : Progress σ} {o : Outcome σ} {t : Token} {d : Draft} {x : Float}

/-- Outside of all parentheses an evaluation reads only the operators of what is to be read. -/
theorem isSome_of_step (hf : p.state.Follows d) (hd : d.IsFinished) (h : Step R limit goal p q)
    (ht : p.rest = t :: q.rest) : (goal.productOp? t).isSome ∨ (goal.sumOp? t).isSome := by
  obtain ⟨sum, term, rfl⟩ := hd
  cases h with
  | read h =>
    cases ht
    cases hf with
    | value hl =>
      cases hl
      cases h with
      | product h => exact .inl (Option.isSome_of_eq_some h)
      | sum h => exact .inr (Option.isSome_of_eq_some h)
  | answer h => cases hf

/-- An evaluation under way follows a draft of the tokens that it has read, which has no operators
outside of all parentheses but those of what is to be read. -/
theorem exists_fits_of_steps (hp : p.state = {}) (h : Steps R limit goal p q) :
    ∃ d, Draft.ReadsAll .start (between p q) d ∧ q.state.Follows d ∧ d.outermost.Fits goal := by
  -- by induction on the tokens read: the draft grows with each of them
  refine between_induction (motive := fun us q =>
    ∃ d, Draft.ReadsAll .start us d ∧ q.state.Follows d ∧ d.outermost.Fits goal) h ?_ ?_
  · refine ⟨.start, .nil, ?_, fun _ => rfl, fun _ => rfl⟩
    rw [hp]
    exact .operand .nil
  · rintro us q r t - - ⟨d, hread, hf, hfits⟩ hstep ht
    obtain ⟨t', d', ht', hd', hf'⟩ := follows_of_step hf hstep
    rw [ht, List.cons.injEq] at ht'
    obtain rfl := ht'.1
    -- what is held outside of all parentheses changes only if the draft was finished before
    refine ⟨d', hread.snoc hd', hf', (Draft.fits_iff_of_reads hd').mpr ⟨hfits, fun hd => ?_⟩⟩
    exact isSome_of_step hf hd hstep ht

/-- **An evaluation that has a value has read a part** of the kind that was asked for. -/
theorem derives_of_ok (hp : p.state = {}) (hx : (p.outcome R limit goal).result = .ok x) :
    Derives goal (p.rest.take ((p.outcome R limit goal).cursor - p.cursor)) := by
  obtain ⟨q, hsteps, hends⟩ := @exists_steps_ends _ R limit goal p
  obtain ⟨⟨y, hstage⟩, hframes, hcursor⟩ := value_of_ends hends hx
  obtain ⟨d, hread, hf, hfits⟩ := exists_fits_of_steps hp hsteps
  obtain ⟨sum, term, rfl⟩ := hf.isFinished hstage hframes
  rw [hcursor]
  exact Draft.derives_iff_readsAll.mpr ⟨sum, term, hread, hfits⟩

theorem next_of_ends {ts : List Token} (h : Ends R limit goal p o) (hx : o.result = .ok x)
    (ht : p.rest = t :: ts) :
    goal.productOp? t = none ∧ goal.sumOp? t = none ∧ (goal = .whole → t.kind = .eof) := by
  cases h with
  | exhausted => cases ht
  | stop hp hs hw =>
    cases ht
    exact ⟨hp, hs, hw⟩
  | unanswered | unfit | fail | refuse => cases hx

/-- The next token does not continue what has been read. -/
theorem next_of_ok (hx : (p.outcome R limit goal).result = .ok x)
    (ht : p.rest[(p.outcome R limit goal).cursor - p.cursor]? = some t) :
    goal.productOp? t = none ∧ goal.sumOp? t = none ∧ (goal = .whole → t.kind = .eof) := by
  obtain ⟨q, hsteps, hends⟩ := @exists_steps_ends _ R limit goal p
  obtain ⟨-, -, hcursor⟩ := value_of_ends hends hx
  obtain ⟨hrest, hlength⟩ := rest_of_between hsteps
  have hnext : q.rest.head? = some t := by
    rw [← ht, hrest, hcursor, ← hlength, Nat.add_sub_cancel_left,
      List.getElem?_append_right (Nat.le_refl _), Nat.sub_self, List.head?_eq_getElem?]
  obtain ⟨ts, hts⟩ := List.head?_eq_some_iff.mp hnext
  exact next_of_ends hends hx hts

/-! ### Where a part stands -/

variable {e : Expression} {cursor : Nat} {log log' : Transcript σ} {rest : List Token}

theorem andThen_ok (m : Meaning σ) : Meaning.andThen m (fun x log => (.ok x, log)) = m := by
  obtain ⟨result, log⟩ := m
  cases result <;> rfl

theorem andThen_eq_ok {m : Meaning σ} {f : Float → Transcript σ → Meaning σ} :
    Meaning.andThen m f = (.ok x, log') ↔
      ∃ y log₁, m = (.ok y, log₁) ∧ f y log₁ = (.ok x, log') := by
  obtain ⟨result, log⟩ := m
  cases result <;> simp [Meaning.andThen]

/-- The evaluation of a part comes to what its tree comes to. -/
theorem meaning_of_part (he : IsPart goal e) (hd : e.depth ≤ limit)
    (hp : goal.productOp? t = none) (hs : goal.sumOp? t = none)
    (hw : goal = .whole → t.kind = .eof) :
    meaning R limit goal ⟨{}, cursor, log, e.tokens ++ t :: rest⟩ = e.meaning R log := by
  -- behind the part the evaluation stops with the value of the part
  have hstop : ∀ (x : Float) (n : Nat) (log : Transcript σ),
      meaning R limit goal ⟨⟨.value x, {}, []⟩, n, log, t :: rest⟩ = (.ok x, log) :=
    fun x n log => meaning_eq_of_ends (.stop hp hs hw)
  have hdepth : ([] : List Frame).length + e.depth ≤ limit := by simpa using hd
  conv_rhs => rw [← andThen_ok (e.meaning R log)]
  cases he with
  | factor f =>
    refine (meaning_factor f {} [] cursor log (t :: rest) hdepth).trans ?_
    refine andThen_congr fun x log => ?_
    exact hstop x _ log
  | term term =>
    have hinside : Goal.term.inside [] ≠ .factor := by simp [Goal.inside]
    refine (meaning_term term none [] cursor log (t :: rest) hinside hdepth).trans ?_
    exact andThen_congr fun x log => hstop x _ log
  | expression e | whole e =>
    refine (meaning_expression e [] cursor log t rest (by simp [Goal.inside]) hdepth hp).trans ?_
    exact andThen_congr fun x log => hstop x _ log

/-- **A part is read to its end**, if nothing behind it continues it and it has a value. -/
theorem outcome_of_part (he : IsPart goal e) (hd : e.depth ≤ limit)
    (hp : goal.productOp? t = none) (hs : goal.sumOp? t = none)
    (hw : goal = .whole → t.kind = .eof) (hm : e.meaning R log = (.ok x, log')) :
    outcome R limit goal ⟨{}, cursor, log, e.tokens ++ t :: rest⟩ =
      ⟨.ok x, cursor + e.tokens.length, log'⟩ := by
  let p : Progress σ := ⟨{}, cursor, log, e.tokens ++ t :: rest⟩
  have hmeaning : p.meaning R limit goal = (.ok x, log') :=
    (meaning_of_part he hd hp hs hw).trans hm
  have hresult : (p.outcome R limit goal).result = .ok x := congrArg Prod.fst hmeaning
  have hlog : (p.outcome R limit goal).log = log' := congrArg Prod.snd hmeaning
  have hforward : cursor ≤ (p.outcome R limit goal).cursor := p.cursor_le_outcome
  -- what has been read is a part, and so is `e`; neither of them goes beyond the other
  have hread : Derives goal (p.rest.take ((p.outcome R limit goal).cursor - cursor)) :=
    derives_of_ok rfl hresult
  have hpart : Derives goal (p.rest.take e.tokens.length) := by
    rw [show p.rest = e.tokens ++ t :: rest from rfl, List.take_left]
    exact ⟨e, he, rfl⟩
  have hbehind : p.rest[e.tokens.length]? = some t := by
    show (e.tokens ++ t :: rest)[e.tokens.length]? = some t
    rw [List.getElem?_append_right (Nat.le_refl _), Nat.sub_self, List.getElem?_cons_zero]
  have hle : (p.outcome R limit goal).cursor - cursor ≤ e.tokens.length :=
    le_of_derives_take hpart.sentence hbehind hp hs hread
  have hge : e.tokens.length ≤ (p.outcome R limit goal).cursor - cursor := by
    have hlength : e.tokens.length < p.rest.length := (List.getElem?_eq_some_iff.mp hbehind).1
    have hnext := List.getElem?_eq_getElem (Nat.lt_of_le_of_lt hle hlength)
    obtain ⟨hp', hs', -⟩ := next_of_ok hresult hnext
    exact le_of_derives_take hread.sentence hnext hp' hs' hpart
  have hcursor : (p.outcome R limit goal).cursor = cursor + e.tokens.length := by omega
  rw [← hresult, ← hcursor, ← hlog]

/-- An evaluation that has a value has read a part in front of the next token, and the value is that
of the tree of the part. -/
theorem exists_part_of_ok (hp : p.state = {}) (hx : (p.outcome R limit goal).result = .ok x)
    (ht : p.rest[(p.outcome R limit goal).cursor - p.cursor]? = some t) :
    ∃ e rest, IsPart goal e ∧ e.depth ≤ limit ∧ p.rest = e.tokens ++ t :: rest ∧
      e.tokens.length = (p.outcome R limit goal).cursor - p.cursor ∧
      e.meaning R p.log = (.ok x, (p.outcome R limit goal).log) := by
  obtain ⟨e, he, htokens⟩ := derives_of_ok hp hx
  obtain ⟨hp', hs, hw⟩ := next_of_ok hx ht
  obtain ⟨hlt, hget⟩ := List.getElem?_eq_some_iff.mp ht
  have hlength : e.tokens.length = (p.outcome R limit goal).cursor - p.cursor := by
    rw [htokens, List.length_take, Nat.min_eq_left (Nat.le_of_lt hlt)]
  have hsplit : p.rest = e.tokens ++ t :: p.rest.drop (e.tokens.length + 1) := by
    conv_lhs => rw [← List.take_append_drop e.tokens.length p.rest]
    rw [hlength, ← htokens, List.drop_eq_getElem_cons hlt, hget]
  -- the tree is no deeper than the parentheses that the evaluation has had open
  have hdepth : e.depth ≤ limit := by
    obtain ⟨q, hsteps, hends⟩ := @exists_steps_ends _ R limit goal p
    obtain ⟨-, -, hcursor⟩ := value_of_ends hends hx
    have hnested : NestedWithin limit (between p q) := nestedWithin_of_steps hsteps (by rw [hp])
    rw [between, ← hcursor, ← htokens, ← List.append_nil e.tokens] at hnested
    exact depth_le_of_nestedWithin hnested
  refine ⟨e, _, he, hdepth, hsplit, hlength, ?_⟩
  obtain ⟨s, cursor, log, tokens⟩ := p
  cases hp
  have hmeaning : meaning R limit goal
      ⟨{}, cursor, log, e.tokens ++ t :: tokens.drop (e.tokens.length + 1)⟩ = e.meaning R log :=
    meaning_of_part he hdepth hp' hs hw
  rw [← hsplit] at hmeaning
  rw [← hmeaning, ← hx]
  rfl

end Progress

namespace Cursor

/-! ### Operands, one after the other -/

variable {α : Type}

/-- Whether parts of one kind are read one after the other from a cursor, with an operator in front
of each but the first: the value of the first one, each operator with the value behind it, and where
that leads to. -/
inductive Operands (R : Resolver σ) (limit : Nat) (part : Goal) (op? : Token → Option α)
    (c : Cursor) (log : Transcript σ) (first : Float) :
    List (α × Float) → Cursor → Transcript σ → Prop
  | first {c' log'}
      (h : c.perform R limit log (.read part) = (.ok (.number first), c', log')) :
      Operands R limit part op? c log first [] c' log'
  | next {row c₁ log₁ t op y c' log'} (h : Operands R limit part op? c log first row c₁ log₁)
      (ht : c₁.peek = .ok t) (hop : op? t = some op)
      (hy : c₁.next.perform R limit log₁ (.read part) = (.ok (.number y), c', log')) :
      Operands R limit part op? c log first (row ++ [(op, y)]) c' log'

/-- The cursor behind so many tokens. -/
def behind (c : Cursor) (n : Nat) : Cursor :=
  { c with index := c.index + n }

variable {c : Cursor} {e : Expression} {t : Token} {us rest : List Token} {x : Float}
  {log log' : Transcript σ}

theorem drop_behind (h : c.tokens.drop c.index = us ++ rest) :
    (c.behind us.length).tokens.drop (c.behind us.length).index = rest := by
  show c.tokens.drop (c.index + us.length) = rest
  rw [← List.drop_drop, h, List.drop_left]

theorem peek_of_drop (h : c.tokens.drop c.index = t :: rest) : c.peek = .ok t := by
  refine peek_eq ?_
  rw [← List.head?_drop, h]
  rfl

theorem drop_next (h : c.tokens.drop c.index = t :: rest) :
    c.next.tokens.drop c.next.index = rest := by
  show c.tokens.drop (c.index + 1) = rest
  rw [← List.drop_drop, h]
  rfl

theorem behind_next_behind (c : Cursor) (us vs : List Token) (t : Token) :
    (c.behind us.length).next.behind vs.length = c.behind (us ++ t :: vs).length := by
  unfold behind next
  rw [Progress.add_length_append_cons]

theorem perform_read_of_part (he : IsPart goal e) (hd : e.depth ≤ limit)
    (hrest : c.tokens.drop c.index = e.tokens ++ t :: rest) (hp : goal.productOp? t = none)
    (hs : goal.sumOp? t = none) (hw : goal = .whole → t.kind = .eof)
    (hm : e.meaning R log = (.ok x, log')) :
    c.perform R limit log (.read goal) =
      (.ok (.number x), c.behind e.tokens.length, log') := by
  have houtcome : Progress.outcome R limit goal ⟨{}, c.index, log, e.tokens ++ t :: rest⟩ =
      ⟨.ok x, c.index + e.tokens.length, log'⟩ := Progress.outcome_of_part he hd hp hs hw hm
  rw [Progress.outcome, ← hrest] at houtcome
  rw [perform, houtcome]
  rfl

/-- A term is read as its factors are, and their values are combined from the left. -/
theorem operands_of_term : ∀ (term : Term) {t : Token} {rest : List Token} {x : Float}
    {log' : Transcript σ}, term.depth ≤ limit →
    c.tokens.drop c.index = term.tokens ++ t :: rest → term.meaning R log = (.ok x, log') →
      ∃ first row, Operands R limit .factor productOp? c log first row
          (c.behind term.tokens.length) log' ∧
        row.foldlM (fun x step => step.1.apply x step.2) first = .ok x
  | .single f, t, rest, x, log', hd, hrest, hm =>
    ⟨x, [], .first (perform_read_of_part (.factor f) hd hrest rfl rfl (by simp) hm), rfl⟩
  | .joined left op right h, t, rest, x, log', hd, hrest, hm => by
    rw [Term.depth, Nat.max_le] at hd
    rw [Term.tokens, List.append_assoc, List.cons_append] at hrest
    obtain ⟨y, log₁, hleft, hm⟩ := Progress.andThen_eq_ok.mp hm
    obtain ⟨z, log₂, hright, hm⟩ := Progress.andThen_eq_ok.mp hm
    rw [Prod.mk.injEq] at hm
    obtain ⟨happly, rfl⟩ := hm
    obtain ⟨first, row, hrow, hfold⟩ := operands_of_term left hd.1 hrest hleft
    have hop := drop_behind hrest
    have hcall := perform_read_of_part (.factor right) hd.2 (drop_next hop) rfl rfl (by simp) hright
    refine ⟨first, row ++ [((productOp? op).get h, z)], ?_, ?_⟩
    · rw [Term.tokens, ← behind_next_behind]
      exact .next hrow (peek_of_drop hop) (Option.some_get h).symm hcall
    · rw [List.foldlM_append, hfold]
      show (((productOp? op).get h).apply y z >>= pure) = .ok x
      rw [happly]
      rfl

/-- An expression is read as its terms are, and their values are combined from the left. -/
theorem operands_of_expression : ∀ (e : Expression) {t : Token} {rest : List Token} {x : Float}
    {log' : Transcript σ}, e.depth ≤ limit → productOp? t = none →
    c.tokens.drop c.index = e.tokens ++ t :: rest → e.meaning R log = (.ok x, log') →
      ∃ first row, Operands R limit .term sumOp? c log first row
          (c.behind e.tokens.length) log' ∧
        row.foldl (fun x step => step.1.apply x step.2) first = x
  | .single term, t, rest, x, log', hd, ht, hrest, hm =>
    ⟨x, [], .first (perform_read_of_part (.term term) hd hrest ht rfl (by simp) hm), rfl⟩
  | .joined left op right h, t, rest, x, log', hd, ht, hrest, hm => by
    rw [Expression.depth, Nat.max_le] at hd
    rw [Expression.tokens, List.append_assoc, List.cons_append] at hrest
    obtain ⟨y, log₁, hleft, hm⟩ := Progress.andThen_eq_ok.mp hm
    obtain ⟨z, log₂, hright, hm⟩ := Progress.andThen_eq_ok.mp hm
    cases hm
    -- the operator behind the terms on the left does not continue the last one of them
    have hbetween : productOp? op = none := productOp?_eq_none_of_sumOp? (Option.some_get h).symm
    obtain ⟨first, row, hrow, hfold⟩ := operands_of_expression left hd.1 hbetween hrest hleft
    have hop := drop_behind hrest
    have hcall := perform_read_of_part (.term right) hd.2 (drop_next hop) ht rfl (by simp) hright
    refine ⟨first, row ++ [((sumOp? op).get h, z)], ?_, ?_⟩
    · rw [Expression.tokens, ← behind_next_behind]
      exact .next hrow (peek_of_drop hop) (Option.some_get h).symm hcall
    · rw [List.foldl_append, hfold]
      rfl

/-! ### Calls -/

/-- What the evaluation starts from that reads at a cursor. -/
def reading (c : Cursor) (log : Transcript σ) : Progress σ :=
  ⟨{}, c.index, log, c.tokens.drop c.index⟩

/-- A call asks at most one query for each token that it reads, whether it fails or not. -/
theorem queries_size_reading_le (c : Cursor) :
    let outcome := (c.reading log).outcome R limit goal
    outcome.log.queries.size ≤
      log.queries.size + (c.tokens.extract c.index outcome.cursor).length := by
  intro outcome
  have hnames (ts : List Token) : (variableNames ts).length ≤ ts.length := by
    rw [variableNames, List.length_map]
    exact List.length_filter_le _ ts
  rw [Progress.log_outcome, ← Array.length_toList, queries_readAll, List.length_append]
  exact Nat.add_le_add_left (hnames _) _

/-- A call that returns has read a part in front of the next token, which does not continue it. -/
theorem InBounds.exists_part (h : c.InBounds)
    (hx : ((c.reading log).outcome R limit goal).result = .ok x) :
    ∃ e t rest, IsPart goal e ∧ e.depth ≤ limit ∧
      c.tokens.drop c.index = e.tokens ++ t :: rest ∧
      ((c.reading log).outcome R limit goal).cursor = c.index + e.tokens.length ∧
      e.meaning R log = (.ok x, ((c.reading log).outcome R limit goal).log) ∧
      goal.productOp? t = none ∧ goal.sumOp? t = none := by
  have hbehaves := h.behaves_perform R limit log (.read goal)
  have hforward : c.index ≤ ((c.reading log).outcome R limit goal).cursor := hbehaves.forward
  have hlt : ((c.reading log).outcome R limit goal).cursor < c.tokens.length :=
    Nat.lt_of_le_of_lt hbehaves.inBounds (firstEnd_lt_length h.terminated)
  have ht : (c.tokens.drop c.index)[((c.reading log).outcome R limit goal).cursor - c.index]? =
      some c.tokens[((c.reading log).outcome R limit goal).cursor] := by
    rw [List.getElem?_drop, Nat.add_sub_cancel' hforward, List.getElem?_eq_getElem hlt]
  obtain ⟨e, rest, he, hd, hrest, hlength, hm⟩ := Progress.exists_part_of_ok rfl hx ht
  obtain ⟨hp, hs, -⟩ := Progress.next_of_ok hx ht
  refine ⟨e, _, rest, he, hd, hrest, ?_, hm, hp, hs⟩
  rw [hlength]
  exact (Nat.add_sub_cancel' hforward).symm

/-- What a call gives that returns is the number that the evaluation has come to. -/
theorem exists_number {y : Answer} (h : (c.perform R limit log (.read goal)).1 = .ok y) :
    ∃ x, ((c.reading log).outcome R limit goal).result = .ok x ∧ y = .number x := by
  have hmap : ((c.reading log).outcome R limit goal).result.map .number = .ok y := h
  cases hr : ((c.reading log).outcome R limit goal).result with
  | error e =>
    rw [hr] at hmap
    cases hmap
  | ok x =>
    rw [hr] at hmap
    exact ⟨x, rfl, (Except.ok.inj hmap).symm⟩

/-- **A factor, a term or an expression is read exactly.**  Wherever the reading starts up to the
first end, it comes no further than that end and asks at most one query for each token that it
reads.  If it returns, it has read a part of the kind, which comes to the value returned; no longer
part stands there, and the next token is no operator that would continue it.  The value of a term is
that of its factors and the value of an expression is that of its terms, as they are returned one
after the other, combined from the left by the operators between them. -/
theorem perform_read_exact (R : Resolver σ) (limit : Nat) (log : Transcript σ) (c : Cursor)
    (h : c.InBounds) (goal : Goal) :
    let (answer, after, log') := c.perform R limit log (.read goal)
    let read := c.tokens.extract c.index after.index
    after.tokens = c.tokens ∧ c.index ≤ after.index ∧ after.index ≤ firstEnd c.tokens ∧
      log'.queries.size ≤ log.queries.size + read.length ∧
      ∀ y, answer = .ok y → ∃ x, y = .number x ∧
        (∃ e, IsPart goal e ∧ e.tokens = read ∧ e.meaning R log = (.ok x, log')) ∧
        (∀ us, us <+: c.tokens.drop c.index → Derives goal us → us <+: read) ∧
        (∃ t, after.peek = .ok t ∧ (goal ≠ .factor → productOp? t = none) ∧
          (goal = .expression → sumOp? t = none)) ∧
        (goal = .term → ∃ first row,
          Operands R limit .factor productOp? c log first row after log' ∧
            row.foldlM (fun x step => step.1.apply x step.2) first = .ok x) ∧
        (goal = .expression → ∃ first row,
          Operands R limit .term sumOp? c log first row after log' ∧
            row.foldl (fun x step => step.1.apply x step.2) first = x) := by
  have hbehaves := h.behaves_perform R limit log (.read goal)
  refine ⟨hbehaves.tokens, hbehaves.forward, hbehaves.inBounds, queries_size_reading_le c,
    fun y hy => ?_⟩
  obtain ⟨x, hx, rfl⟩ := exists_number hy
  obtain ⟨e, t, rest, he, hd, hrest, hcursor, hm, hp, hs⟩ := h.exists_part hx
  have hread : c.tokens.extract c.index ((c.reading log).outcome R limit goal).cursor =
      e.tokens := by
    rw [List.extract_eq_take_drop, hcursor, Nat.add_sub_cancel_left, hrest, List.take_left]
  have hafter : c.behind e.tokens.length =
      { c with index := ((c.reading log).outcome R limit goal).cursor } := by
    rw [behind, hcursor]
  refine ⟨x, rfl, ⟨e, he, hread.symm, hm⟩, fun us hus hderives => ?_, ⟨t, ?_, ?_, ?_⟩, ?_, ?_⟩
  · rw [hrest] at hus
    exact (congrArg (us <+: ·) hread).mpr (prefix_of_derives ⟨e, rfl⟩ hp hs hus hderives)
  · refine (congrArg (fun c : Cursor => c.peek = .ok t) hafter).mp ?_
    exact peek_of_drop (drop_behind hrest)
  · intro hgoal
    cases goal with
    | factor => exact absurd rfl hgoal
    | _ => exact hp
  · rintro rfl
    exact hs
  · rintro rfl
    cases he with
    | term term =>
      obtain ⟨first, row, hrow, hfold⟩ := operands_of_term term hd hrest hm
      exact ⟨first, row, hafter ▸ hrow, hfold⟩
  · rintro rfl
    obtain ⟨first, row, hrow, hfold⟩ := operands_of_expression e hd hp hrest hm
    exact ⟨first, row, hafter ▸ hrow, hfold⟩

/-- The tokens of `(x/y-1)*2` with an end behind them. -/
def doubledDifference : List Token :=
  [spelled .lparen '(' 0, spelled .variable 'x' 1, spelled .operator '/' 2, spelled .variable 'y' 3,
    spelled .operator '-' 4, spelled .number '1' 5, spelled .rparen ')' 6, spelled .operator '*' 7,
    spelled .number '2' 8, Token.atEnd 9]

/-- In the parenthesis, the expression `x/y-1` is read from the variable on, and no more. -/
theorem perform_read_exact_doubledDifference :
    let answers : Script := { steps := [.ok (.float 8.0), .ok (.float 2.0)] }
    let c : Cursor := { tokens := doubledDifference, index := 1 }
    let (answer, after, log') :=
      c.perform Script.resolver 1 { state := answers } (.read .expression)
    c.InBounds ∧ answer = .ok (.number 3.0) ∧ after.index = 6 ∧ log'.queries.size ≤ 5 ∧
      (∀ us, us <+: c.tokens.drop 1 → Derives .expression us →
        us <+: c.tokens.extract 1 after.index) ∧
      ∃ first row,
        Operands Script.resolver 1 .term sumOp? c { state := answers } first row after log' ∧
          row.foldl (fun x step => step.1.apply x step.2) first = 3.0 := by
  intro answers c
  have hin : c.InBounds := ⟨rfl, by decide⟩
  have hanswer : (c.perform Script.resolver 1 { state := answers } (.read .expression)).1 =
      .ok (.number 3.0) := by decide +kernel
  have hindex : (c.perform Script.resolver 1 { state := answers } (.read .expression)).2.1.index =
      6 := by decide +kernel
  obtain ⟨-, -, -, hqueries, hreturns⟩ :=
    perform_read_exact Script.resolver 1 { state := answers } c hin .expression
  obtain ⟨x, hx, -, hlongest, -, -, hoperands⟩ := hreturns _ hanswer
  cases hx
  exact ⟨hin, hanswer, hindex, Nat.le_trans hqueries (by decide +kernel), hlongest,
    hoperands rfl⟩

end Cursor

end Calculator.Evaluation
