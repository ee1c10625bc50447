import Calculator.Proofs.Evaluation.Record

/-!
# Queries of a table

A table gives the same reply to a name whenever it is asked (`exchanges_table`), and no query
changes it (`after_table`).  So what it answers to a row of names, and what is reported of these
queries, is the same for all tables that agree on the names (`answers_table_congr`,
`events_table_congr`).
-/

namespace Calculator.Resolver

variable {b b' : Bindings Value} {names : List String}

/-- The reply to one query. -/
theorem resolve_table (b : Bindings Value) (name : String) :
    table.resolve b name =
      { answer := (b.get? name).elim (.error (.unresolved name .undefined)) .ok, state := b } := by
  unfold table
  dsimp only
  cases b.get? name <;> rfl

theorem after_table (b : Bindings Value) (names : List String) : table.after b names = b := by
  induction names with
  | nil => rfl
  | cons name names ih =>
    have hstate : (table.resolve b name).state = b := by rw [resolve_table]
    rw [after, hstate, ih]

theorem exchanges_table (b : Bindings Value) (names : List String) :
    table.exchanges b names = names.map fun name => ⟨b, name, table.resolve b name⟩ := by
  induction names with
  | nil => rfl
  | cons name names ih =>
    have hstate : (table.resolve b name).state = b := by rw [resolve_table]
    rw [exchanges, hstate, ih, List.map_cons]

/-! ### Tables that agree -/

theorem answers_table_congr (h : ∀ name ∈ names, b'.get? name = b.get? name) :
    table.answers b' names = table.answers b names := by
  unfold answers
  rw [exchanges_table, exchanges_table, List.map_map, List.map_map]
  refine List.map_congr_left ?_
  intro name hname
  have hget := h name hname
  simp only [Function.comp_apply, resolve_table, hget]

theorem events_table_congr (h : ∀ name ∈ names, b'.get? name = b.get? name) :
    (table.exchanges b' names).flatMap Exchange.events =
      (table.exchanges b names).flatMap Exchange.events := by
  rw [exchanges_table, exchanges_table, List.flatMap_map, List.flatMap_map, List.flatMap_def,
    List.flatMap_def]
  refine congrArg List.flatten (List.map_congr_left ?_)
  intro name hname
  have hget := h name hname
  simp only [Exchange.events, Exchange.number?, resolve_table, hget]

end Calculator.Resolver
