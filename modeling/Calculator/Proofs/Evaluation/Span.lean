import Calculator.Proofs.Evaluation.Progress

/-!
# The tokens that are read

Between two points of an evaluation a span of tokens is read (`Progress.between`), and what is said
of a span is proved token by token (`between_induction`).  The end is never in a span, so the cursor
comes no further than to the first end (`cursor_le_firstEnd`).  What an evaluation leaves behind is
what the variables among the tokens before the cursor leave behind, each by its query
(`log_outcome`).
-/

namespace Calculator.Evaluation

variable {σ : Type} {R : Resolver σ} {limit : Nat} {goal : Goal}

/-! ### One token -/

/-- What is left behind when a token is read: only variables are queried. -/
def Transcript.read (R : Resolver σ) (log : Transcript σ) (t : Token) : Transcript σ :=
  if t.kind = .variable then (log.query R t).2 else log

/-- What is left behind when tokens are read. -/
def Transcript.readAll (R : Resolver σ) (log : Transcript σ) (ts : List Token) : Transcript σ :=
  ts.foldl (Transcript.read R) log

theorem Transcript.readAll_append (log : Transcript σ) (ts us : List Token) :
    log.readAll R (ts ++ us) = (log.readAll R ts).readAll R us := by
  unfold readAll
  rw [List.foldl_append]

theorem Transcript.readAll_snoc (log : Transcript σ) (ts : List Token) (t : Token) :
    log.readAll R (ts ++ [t]) = (log.readAll R ts).read R t :=
  readAll_append log ts [t]

namespace State

variable {s next : State} {t : Token} {e : Failure}

theorem kind_of_reads (h : s.Reads limit goal t next) : t.kind ≠ .eof ∧ t.kind ≠ .variable := by
  cases h with
  | number h | name h | group h | call h | close h => simp [h]
  | product h => simp [kind_of_productOp? (Goal.productOp?_eq_some h)]
  | sum h => simp [kind_of_sumOp? (Goal.sumOp?_eq_some h)]

theorem kind_of_fails (h : s.Fails limit t e) : t.kind ≠ .eof ∧ t.kind ≠ .variable := by
  cases h with
  | number h | factor h | group h | call h | apply h | close h => simp [h]

end State

namespace Progress

variable {p q r : Progress σ} {o : Outcome σ} {t : Token}

/-- The end is not read. -/
theorem kind_ne_eof_of_step (h : Step R limit goal p q) (ht : p.rest = t :: q.rest) :
    t.kind ≠ .eof := by
  cases h with
  | read h =>
    cases ht
    exact (State.kind_of_reads h).1
  | answer h hx hy =>
    cases ht
    simp [h]

theorem log_of_step (h : Step R limit goal p q) (ht : p.rest = t :: q.rest) :
    q.log = p.log.read R t := by
  unfold Transcript.read
  cases h with
  | read h =>
    cases ht
    rw [if_neg (State.kind_of_reads h).2]
  | answer h hx hy =>
    cases ht
    rw [if_pos h]

/-- An evaluation ends in front of a token, or it fails with the token that it reads. -/
theorem cursor_of_ends (h : Ends R limit goal p o) :
    o.cursor = p.cursor ∧ o.log = p.log ∨
      ∃ t ts, p.rest = t :: ts ∧ o.cursor = p.cursor + 1 ∧ o.log = p.log.read R t ∧
        t.kind ≠ .eof := by
  cases h with
  | exhausted => exact .inl ⟨rfl, rfl⟩
  | unanswered h he => exact .inr ⟨_, _, rfl, rfl, (if_pos h).symm, by simp [h]⟩
  | unfit h hx he => exact .inr ⟨_, _, rfl, rfl, (if_pos h).symm, by simp [h]⟩
  | fail h =>
    obtain ⟨hend, hvar⟩ := State.kind_of_fails h
    exact .inr ⟨_, _, rfl, rfl, (if_neg hvar).symm, hend⟩
  | refuse h => exact .inl ⟨rfl, rfl⟩
  | stop hp hs hw => exact .inl ⟨rfl, rfl⟩

theorem cursor_le_of_ends (h : Ends R limit goal p o) : p.cursor ≤ o.cursor := by
  rcases cursor_of_ends h with ⟨hc, -⟩ | ⟨t, ts, -, hc, -, -⟩ <;> omega

/-! ### Spans of tokens -/

/-- The tokens that are read between two points of an evaluation. -/
def between (p q : Progress σ) : List Token :=
  p.rest.take (q.cursor - p.cursor)

theorem rest_of_between (h : Steps R limit goal p q) :
    p.rest = between p q ++ q.rest ∧ p.cursor + (between p q).length = q.cursor := by
  -- it is enough to find some tokens in front of the rest, as many as the cursor moves
  have hspan : ∃ us, p.rest = us ++ q.rest ∧ p.cursor + us.length = q.cursor := by
    induction h with
    | refl => exact ⟨[], rfl, rfl⟩
    | tail _ step ih =>
      obtain ⟨us, hrest, hcursor⟩ := ih
      obtain ⟨t, ht, hc⟩ := rest_of_step step
      refine ⟨us ++ [t], ?_, ?_⟩
      · rw [hrest, ht, List.append_assoc, List.singleton_append]
      · rw [List.length_append, List.length_singleton]
        omega
  obtain ⟨us, hrest, hcursor⟩ := hspan
  have hus : between p q = us := by
    unfold between
    rw [hrest, show q.cursor - p.cursor = us.length by omega, List.take_left]
  rw [hus]
  exact ⟨hrest, hcursor⟩

theorem between_snoc (h : Steps R limit goal p q) (hstep : Step R limit goal q r)
    (ht : q.rest = t :: r.rest) : between p r = between p q ++ [t] := by
  obtain ⟨hq, hqc⟩ := rest_of_between h
  obtain ⟨hr, hrc⟩ := rest_of_between (h.tail hstep)
  rw [hq, ht, List.append_cons] at hr
  exact (List.append_cancel_right hr).symm

/-- Induction along an evaluation: what holds of nothing read, and goes on holding with every token
that a step reads, holds of all that is read. -/
theorem between_induction {motive : List Token → Progress σ → Prop} (h : Steps R limit goal p q)
    (nil : motive [] p)
    (snoc : ∀ us q r t, Steps R limit goal p q → us = between p q → motive us q →
      Step R limit goal q r → q.rest = t :: r.rest → motive (us ++ [t]) r) :
    motive (between p q) q := by
  induction h with
  | refl =>
    have hnil : between p p = [] := by simp [between]
    rw [hnil]
    exact nil
  | @tail q r hsteps step ih =>
    obtain ⟨t, ht, -⟩ := rest_of_step step
    rw [between_snoc hsteps step ht]
    exact snoc _ q r t hsteps rfl ih step ht

theorem log_of_steps (h : Steps R limit goal p q) : q.log = p.log.readAll R (between p q) := by
  refine between_induction (motive := fun us q => q.log = p.log.readAll R us) h rfl ?_
  intro us q r t _ _ ih hstep ht
  rw [log_of_step hstep ht, ih, Transcript.readAll_snoc]

/-- An evaluation does not go back. -/
theorem cursor_le_outcome (p : Progress σ) : p.cursor ≤ (p.outcome R limit goal).cursor := by
  obtain ⟨q, hsteps, hends⟩ := @exists_steps_ends _ R limit goal p
  have hq := (rest_of_between hsteps).2
  have ho := cursor_le_of_ends hends
  omega

/-- What is left behind by an evaluation is left behind by the tokens up to its cursor. -/
theorem log_outcome (p : Progress σ) :
    (p.outcome R limit goal).log =
      p.log.readAll R (p.rest.take ((p.outcome R limit goal).cursor - p.cursor)) := by
  obtain ⟨q, hsteps, hends⟩ := @exists_steps_ends _ R limit goal p
  have hlog := log_of_steps hsteps
  rcases cursor_of_ends hends with ⟨hc, ho⟩ | ⟨t, ts, ht, hc, ho, -⟩
  · rw [ho, hc, hlog]
    rfl
  · -- no step reads the token that the evaluation fails with, but its query is made all the same
    obtain ⟨hrest, hlength⟩ := rest_of_between hsteps
    have hall : p.rest = (between p q ++ [t]) ++ ts := by
      rw [hrest, ht, ← List.append_cons]
    have hcount : (p.outcome R limit goal).cursor - p.cursor = (between p q ++ [t]).length := by
      rw [hc, List.length_append, List.length_singleton]
      omega
    rw [ho, hcount, hall, List.take_left, Transcript.readAll_snoc, hlog]

end Progress

/-! ### The first end -/

/-- The index of the first end. -/
def firstEnd (tokens : List Token) : Nat :=
  tokens.findIdx fun t => t.kind = .eof

theorem firstEnd_lt_length {tokens : List Token} (h : isTerminated tokens = true) :
    firstEnd tokens < tokens.length := by
  unfold isTerminated at h
  split at h
  · next t hlast =>
    exact List.findIdx_lt_length_of_exists ⟨t, List.mem_of_getLast? hlast, h⟩
  · cases h

/-- Whatever stands before the first end and is not an end has its successor there as well. -/
theorem succ_le_firstEnd {tokens : List Token} {i : Nat} {t : Token} (h : i ≤ firstEnd tokens)
    (hget : tokens[i]? = some t) (ht : t.kind ≠ .eof) : i + 1 ≤ firstEnd tokens := by
  rcases Nat.lt_or_eq_of_le h with hlt | rfl
  · exact hlt
  · obtain ⟨hlt, hget⟩ := List.getElem?_eq_some_iff.mp hget
    have hend := List.findIdx_getElem (w := hlt)
    exact absurd (of_decide_eq_true (hget ▸ hend)) ht

theorem firstEnd_append_atEnd {body : List Token} (h : ∀ t ∈ body, t.kind ≠ .eof) (pos : Nat) :
    firstEnd (body ++ [Token.atEnd pos]) = body.length := by
  have hbody : body.findIdx (fun t => t.kind = .eof) = body.length :=
    List.findIdx_eq_length_of_false fun t ht => decide_eq_false (h t ht)
  unfold firstEnd
  rw [List.findIdx_append, hbody, if_neg (Nat.lt_irrefl _)]
  exact Nat.zero_add _

theorem firstEnd_le {tokens : List Token} {i : Nat} {t : Token} (hget : tokens[i]? = some t)
    (ht : t.kind = .eof) : firstEnd tokens ≤ i := by
  obtain ⟨hlt, hget⟩ := List.getElem?_eq_some_iff.mp hget
  refine Nat.le_of_not_lt fun hbefore => ?_
  have hno := List.not_of_lt_findIdx hbefore
  rw [hget, ht] at hno
  cases hno

namespace Progress

variable {p q : Progress σ} {o : Outcome σ} {tokens : List Token}

/-- The next token is the one at the cursor. -/
theorem getElem?_cursor {t : Token} {ts : List Token} (hp : p.rest = tokens.drop p.cursor)
    (ht : p.rest = t :: ts) : tokens[p.cursor]? = some t := by
  rw [← List.head?_drop, ← hp, ht]
  rfl

theorem rest_eq_drop_of_steps (hp : p.rest = tokens.drop p.cursor) (h : Steps R limit goal p q) :
    q.rest = tokens.drop q.cursor := by
  obtain ⟨hrest, hcursor⟩ := rest_of_between h
  rw [← hcursor, ← List.drop_drop, ← hp, hrest, List.drop_left]

theorem cursor_le_firstEnd_of_steps (hp : p.rest = tokens.drop p.cursor)
    (hc : p.cursor ≤ firstEnd tokens) (h : Steps R limit goal p q) :
    q.cursor ≤ firstEnd tokens := by
  induction h with
  | refl => exact hc
  | tail hsteps step ih =>
    obtain ⟨t, ht, hcursor⟩ := rest_of_step step
    rw [hcursor]
    exact succ_le_firstEnd ih (getElem?_cursor (rest_eq_drop_of_steps hp hsteps) ht)
      (kind_ne_eof_of_step step ht)

/-- In front of the first end, and at it, there is a next token. -/
theorem exists_rest_of_steps (hend : isTerminated tokens = true)
    (hp : p.rest = tokens.drop p.cursor) (hc : p.cursor ≤ firstEnd tokens)
    (h : Steps R limit goal p q) : ∃ t ts, q.rest = t :: ts := by
  have hle := cursor_le_firstEnd_of_steps hp hc h
  have hlt := firstEnd_lt_length hend
  cases hq : q.rest with
  | nil =>
    rw [rest_eq_drop_of_steps hp h, List.drop_eq_nil_iff] at hq
    omega
  | cons t ts => exact ⟨t, ts, rfl⟩

/-- **An evaluation does not go beyond the first end.** -/
theorem cursor_le_firstEnd (hp : p.rest = tokens.drop p.cursor) (hc : p.cursor ≤ firstEnd tokens) :
    (p.outcome R limit goal).cursor ≤ firstEnd tokens := by
  obtain ⟨q, hsteps, hends⟩ := @exists_steps_ends _ R limit goal p
  have hq := cursor_le_firstEnd_of_steps hp hc hsteps
  rcases cursor_of_ends hends with ⟨ho, -⟩ | ⟨t, ts, ht, ho, -, hend⟩
  · rw [ho]
    exact hq
  · rw [ho]
    exact succ_le_firstEnd hq (getElem?_cursor (rest_eq_drop_of_steps hp hsteps) ht) hend

/-- A whole expression has a value only at an end. -/
theorem exists_end_of_ends {x : Float} (h : Ends R limit .whole p o) (hx : o.result = .ok x) :
    ∃ t ts, p.rest = t :: ts ∧ t.kind = .eof ∧ o.cursor = p.cursor := by
  cases h with
  | exhausted =>
    dsimp only at hx
    unfold State.atEnd at hx
    split at hx
    · next hg => cases hg
    · cases hx
  | stop hp hs hw => exact ⟨_, _, rfl, hw rfl, rfl⟩
  | unanswered | unfit | fail | refuse => cases hx

/-- A value is found at the first end. -/
theorem cursor_eq_firstEnd {x : Float} (hp : p.rest = tokens.drop p.cursor)
    (hc : p.cursor ≤ firstEnd tokens) (hx : (p.outcome R limit .whole).result = .ok x) :
    (p.outcome R limit .whole).cursor = firstEnd tokens := by
  obtain ⟨q, hsteps, hends⟩ := @exists_steps_ends _ R limit .whole p
  obtain ⟨t, ts, ht, hk, ho⟩ := exists_end_of_ends hends hx
  refine Nat.le_antisymm (cursor_le_firstEnd hp hc) ?_
  rw [ho]
  exact firstEnd_le (getElem?_cursor (rest_eq_drop_of_steps hp hsteps) ht) hk

end Progress

/-- An evaluation finds a value at the first end. -/
theorem cursor_evaluate {state : σ} {tokens : List Token} {x : Float}
    (hend : isTerminated tokens = true) (hx : (evaluate R limit state tokens).result = .ok x) :
    (evaluate R limit state tokens).cursor = firstEnd tokens := by
  rw [Progress.evaluate_of_isTerminated state hend] at hx ⊢
  rw [result_reported, mapError_eq_ok] at hx
  rw [cursor_reported]
  exact Progress.cursor_eq_firstEnd rfl (Nat.zero_le _) hx

end Calculator.Evaluation
