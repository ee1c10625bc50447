import Calculator.Resolver.Console
import Calculator.Resolver.Exchange

/-!
# What a console remembers

A console asks for a name exactly if it has no value for it (`resolve_of_known`,
`resolve_of_unknown`).  A number that the user enters is remembered, and nothing else is
(`ask_of_typed`, `ask_of_not_typed`).  What is known stays as it is (`get?_after`), and a name gets
a value only if it is queried (`get?_after_of_notMem`).
-/

namespace Calculator.Console

variable {c : Console} {name other : String} {v : Value} {x : Float}

/-- The number that the next answer stands for, if there is one. -/
def typed? (c : Console) : Option Float :=
  c.answers.head?.bind fun answer => Decimal.float? (Text.strip answer)

/-! ### One query -/

theorem resolve_of_known (h : c.known.get? name = some v) :
    resolver.resolve c name = { answer := .ok v, state := c } := by
  unfold resolver
  dsimp only
  rw [h]

theorem resolve_of_unknown (h : c.known.get? name = none) :
    resolver.resolve c name = c.ask name := by
  unfold resolver
  dsimp only
  rw [h]

theorem asked_ask (c : Console) (name : String) :
    (c.ask name).state.asked = c.asked.push (prompt name) := by
  unfold ask
  dsimp only
  split
  · rfl
  · split <;> rfl

theorem answers_ask (c : Console) (name : String) :
    (c.ask name).state.answers = c.answers.tail := by
  unfold ask
  dsimp only
  split
  · next h =>
    rw [h]
    rfl
  · next h =>
    rw [h]
    split <;> rfl

theorem ask_of_typed (h : c.typed? = some x) :
    (c.ask name).answer = .ok (.float x) ∧
      (c.ask name).state.known = c.known.insert name (.float x) := by
  obtain ⟨answer, hanswer, hx⟩ := Option.bind_eq_some_iff.mp h
  obtain ⟨rest, hrest⟩ := List.head?_eq_some_iff.mp hanswer
  unfold ask
  dsimp only
  rw [hrest]
  dsimp only
  rw [hx]
  exact ⟨rfl, rfl⟩

theorem ask_of_not_typed (h : c.typed? = none) :
    (∃ want, (c.ask name).answer = .error (.unresolved name want)) ∧
      (c.ask name).state.known = c.known := by
  unfold ask
  dsimp only
  split
  · exact ⟨⟨_, rfl⟩, rfl⟩
  · next answer rest hanswers =>
    have hnone : Decimal.float? (Text.strip answer) = none := by
      simpa only [typed?, hanswers, List.head?_cons, Option.bind_some] using h
    rw [hnone]
    exact ⟨⟨_, rfl⟩, rfl⟩

/-- A query fails only for a name without a value. -/
theorem exists_want_of_answer {f : Failure} (h : (resolver.resolve c name).answer = .error f) :
    ∃ want, f = .unresolved name want := by
  cases hv : c.known.get? name with
  | some v =>
    rw [resolve_of_known hv] at h
    cases h
  | none =>
    rw [resolve_of_unknown hv] at h
    cases hx : c.typed? with
    | some x =>
      rw [(ask_of_typed hx).1] at h
      cases h
    | none =>
      obtain ⟨want, hw⟩ := (@ask_of_not_typed c name hx).1
      rw [hw] at h
      cases h
      exact ⟨want, rfl⟩

/-! ### What stays -/

/-- A query gives no new value to any other name. -/
theorem get?_resolve_of_ne (h : other ≠ name) :
    (resolver.resolve c name).state.known.get? other = c.known.get? other := by
  cases hv : c.known.get? name with
  | some v => rw [resolve_of_known hv]
  | none =>
    rw [resolve_of_unknown hv]
    cases hx : c.typed? with
    | some x => rw [(ask_of_typed hx).2, Bindings.get?_insert, if_neg h]
    | none => rw [(ask_of_not_typed hx).2]

/-- A query leaves the value of every name as it is. -/
theorem get?_resolve (name : String) (h : c.known.get? other = some v) :
    (resolver.resolve c name).state.known.get? other = some v := by
  by_cases hname : other = name
  · subst hname
    rw [resolve_of_known h]
    exact h
  · rw [get?_resolve_of_ne hname, h]

/-- The answer to a query is known from then on. -/
theorem get?_of_answer (h : (resolver.resolve c name).answer = .ok v) :
    (resolver.resolve c name).state.known.get? name = some v := by
  cases hv : c.known.get? name with
  | some w =>
    rw [resolve_of_known hv] at h ⊢
    cases h
    exact hv
  | none =>
    rw [resolve_of_unknown hv] at h ⊢
    cases hx : c.typed? with
    | some x =>
      rw [(ask_of_typed hx).1] at h
      cases h
      rw [(ask_of_typed hx).2, Bindings.get?_insert, if_pos rfl]
    | none =>
      obtain ⟨want, hw⟩ := (@ask_of_not_typed c name hx).1
      rw [hw] at h
      cases h

/-- **Values stay**: no query changes or removes them. -/
theorem get?_after (names : List String) (h : c.known.get? other = some v) :
    (resolver.after c names).known.get? other = some v := by
  induction names generalizing c with
  | nil => exact h
  | cons name names ih => exact ih (get?_resolve name h)

/-- A name that is not queried gets no value. -/
theorem get?_after_of_notMem {names : List String} (h : other ∉ names) :
    (resolver.after c names).known.get? other = c.known.get? other := by
  induction names generalizing c with
  | nil => rfl
  | cons name names ih =>
    rw [List.mem_cons, not_or] at h
    exact (ih h.2).trans (get?_resolve_of_ne h.1)

end Calculator.Console
