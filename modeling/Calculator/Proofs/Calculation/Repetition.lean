import Calculator.Proofs.Calculation.Queries
import Calculator.Proofs.Resolver.Valuation

/-!
# Calculating once more

A calculation that has a value has been told the values of all its variables.  So a console is asked
for each of the names that it does not know, once and in the order in which they occur
(`asked_after`), and a table of the values known at the end, or the console itself once more, gives
the same answers without asking (`answers_of_knows`).  Together: `calculateWithin_repeated`.
-/

namespace Calculator

open Evaluation

/-! ### Sources that know all the names -/

namespace Resolver

variable {σ : Type} {R : Resolver σ}

/-- Whether a resolver in some state answers with the values of a table, and stays in that state. -/
def Knows (R : Resolver σ) (state : σ) (values : Bindings Value) : Prop :=
  ∀ name v, values.get? name = some v →
    (R.resolve state name).answer = .ok v ∧ (R.resolve state name).state = state

theorem knows_table (values : Bindings Value) : Knows table values values := by
  intro name v hv
  unfold table
  dsimp only
  rw [hv]
  exact ⟨rfl, rfl⟩

theorem knows_console (c : Console) : Knows Console.resolver c c.known := by
  intro name v hv
  rw [Console.resolve_of_known hv]
  exact ⟨rfl, rfl⟩

/-- When everything that a console was asked has been answered, whoever knows what it knows in the
end gives the same answers, and asks nothing. -/
theorem answers_of_knows {state : σ} {c : Console} {names : List String} {values : Bindings Value}
    (hR : R.Knows state values)
    (hok : ∀ e ∈ Console.resolver.exchanges c names, ∃ v, e.reply.answer = .ok v)
    (hend : ∀ name v, (Console.resolver.after c names).known.get? name = some v →
      values.get? name = some v) :
    R.answers state names = Console.resolver.answers c names ∧ R.after state names = state := by
  induction names generalizing c with
  | nil => exact ⟨rfl, rfl⟩
  | cons name names ih =>
    obtain ⟨v, hv⟩ := hok _ (List.mem_cons_self ..)
    -- the value is known from this query on, so it is among those known in the end
    have hvalue : values.get? name = some v :=
      hend name v (Console.get?_after names (Console.get?_of_answer hv))
    obtain ⟨hanswer, hstate⟩ := hR name v hvalue
    obtain ⟨hanswers, hafter⟩ := ih (fun e he => hok e (List.mem_cons_of_mem _ he)) hend
    constructor
    · show (R.resolve state name).answer :: R.answers (R.resolve state name).state names =
        (Console.resolver.resolve c name).answer ::
          Console.resolver.answers (Console.resolver.resolve c name).state names
      rw [hanswer, hstate, hanswers, show (Console.resolver.resolve c name).answer = .ok v from hv]
    · show R.after (R.resolve state name).state names = state
      rw [hstate, hafter]

end Resolver

/-! ### What is asked -/

namespace Console

/-- When everything has been answered, a console has asked for the names that it did not know. -/
theorem asked_after {c : Console} {names : List String}
    (hok : ∀ e ∈ resolver.exchanges c names, ∃ v, e.reply.answer = .ok v) :
    (resolver.after c names).asked.toList =
      c.asked.toList ++ (c.newNames names).map prompt :=
  (answers_eq_valuation
    ⟨names, [], (List.append_nil names).symm, Nat.zero_le 1, List.forall_mem_map.mpr hok⟩).2

end Console

/-! ### Whole calculations -/

/-- All variables of a text stand in front of its end. -/
theorem variableNames_take_firstEnd {source : String} {tokens : List Token}
    (h : Token.ofText source = .ok tokens) :
    variableNames (tokens.take (firstEnd tokens)) = variableNames tokens := by
  obtain ⟨body, hcovers, rfl⟩ := Token.ofText_eq_ok_iff_covers.mp h
  have hbody : ∀ t ∈ body, t.kind ≠ .eof := fun t ht => (hcovers.fits t ht).2.kind_ne_eof
  have hlast : variableNames [Token.atEnd source.toList.length] = [] :=
    variableNames_of_ne (by simp [Token.atEnd])
  rw [firstEnd_append_atEnd hbody, List.take_left, variableNames_append, hlast, List.append_nil]

/-- A calculation that has a value has queried all the variables of the text. -/
theorem queries_of_result {σ : Type} {R : Resolver σ} {limit : Nat} {state : σ} {source : String}
    {x : Float} (h : (calculateWithin R limit state source).result = .ok x) :
    ∃ tokens, Token.ofText source = .ok tokens ∧
      (calculateWithin R limit state source).log.queries.toList = variableNames tokens := by
  cases hlex : Token.ofText source with
  | error e =>
    rw [calculateWithin, hlex] at h
    cases h
  | ok tokens =>
    rw [result_calculateWithin hlex, mapError_eq_ok] at h
    refine ⟨tokens, rfl, ?_⟩
    rw [log_calculateWithin hlex, queries_evaluate, cursor_evaluate (isTerminated_of_ofText hlex) h,
      variableNames_take_firstEnd hlex]

/-- **A calculation at a console can be repeated**: if it has a value, then the names that it asked
for are those of the variables of the text that the console did not know, each once and in the order
in which they occur first; a table of the values known afterwards leads to the same value; and so
does the console once more, which is not asked for anything. -/
theorem calculateWithin_repeated (limit : Nat) (c : Console) (source : String) (x : Float)
    (h : (calculateWithin Console.resolver limit c source).result = .ok x) :
    let c' := (calculateWithin Console.resolver limit c source).log.state
    let again := calculateWithin Console.resolver limit c' source
    (∃ tokens, Token.ofText source = .ok tokens ∧ c'.asked.toList =
      c.asked.toList ++ (c.newNames (variableNames tokens)).map Console.prompt) ∧
      (calculateWithin Resolver.table limit c'.known source).result = .ok x ∧
      again.result = .ok x ∧ again.log.state = c' := by
  intro c' again
  obtain ⟨tokens, hlex, hqueries⟩ := queries_of_result h
  have hstate : c' = Console.resolver.after c
      (calculateWithin Console.resolver limit c source).log.queries.toList :=
    state_calculateWithin Console.resolver limit c source
  -- a query that had failed would have been the failure of the calculation
  have hok : ∀ e ∈ Console.resolver.exchanges c
      (calculateWithin Console.resolver limit c source).log.queries.toList,
      ∃ v, e.reply.answer = .ok v := by
    intro e he
    cases hanswer : e.reply.answer with
    | ok v => exact ⟨v, rfl⟩
    | error f =>
      obtain ⟨t, -, hresult⟩ := result_calculateWithin_of_mem_exchanges he hanswer
      rw [hresult] at h
      cases h
  have hend : ∀ name v, (Console.resolver.after c
      (calculateWithin Console.resolver limit c source).log.queries.toList).known.get? name =
        some v → c'.known.get? name = some v := by
    rw [← hstate]
    exact fun name v hv => hv
  have htable := Resolver.answers_of_knows (Resolver.knows_table c'.known) hok hend
  have hagain := Resolver.answers_of_knows (Resolver.knows_console c') hok hend
  refine ⟨⟨tokens, hlex, ?_⟩, ?_, ?_, ?_⟩
  · rw [hstate, Console.asked_after hok, hqueries]
  · rw [(calculateWithin_congr Resolver.table c'.known htable.1).1, h]
  · rw [(calculateWithin_congr Console.resolver c' hagain.1).1, h]
  · rw [show again.log.state = _ from state_calculateWithin Console.resolver limit c' source,
      (calculateWithin_congr Console.resolver c' hagain.1).2.2, hagain.2]

/-- A console that knows `y`, and the answers `2` and ` 3 `. -/
def knowingOneName : Console :=
  { known := Bindings.ofList [("y", .float 10.0)], answers := ["2", " 3 "] }

/-- `x*(y+z)*x` makes that console ask for `x` and `z` only, and can be calculated once more. -/
theorem calculateWithin_repeated_product :
    let outcome := calculateWithin Console.resolver 1 knowingOneName "x*(y+z)*x"
    let again := calculateWithin Console.resolver 1 outcome.log.state "x*(y+z)*x"
    outcome.result = .ok 52.0 ∧ outcome.log.state.asked.toList = ["x", "z"].map Console.prompt ∧
      again.result = .ok 52.0 ∧ again.log.state = outcome.log.state := by
  intro outcome again
  have hresult : outcome.result = .ok 52.0 := by decide +kernel
  have hasked : outcome.log.state.asked.toList = ["x", "z"].map Console.prompt := by decide +kernel
  obtain ⟨-, -, hagain, hstate⟩ :=
    calculateWithin_repeated 1 knowingOneName "x*(y+z)*x" 52.0 hresult
  exact ⟨hresult, hasked, hagain, hstate⟩

end Calculator
