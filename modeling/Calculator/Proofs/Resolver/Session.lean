import Calculator.Proofs.Calculation.Queries
import Calculator.Proofs.Resolver.Console
import Calculator.Resolver.Session

/-!
# Sessions at a console are their queries

Whatever the caller does with tables, only queries change the console (`console_act`), so a session
is the row of its queries (`history_eq`).  In such a row a name is asked for exactly if it has no
value, numbers are remembered until the end, and nothing else is (`kept_of_exchanges`).  Together:
`kept_of_session`.
-/

namespace Calculator.Console

open Evaluation

variable {limit : Nat}

/-! ### A row of queries -/

/-- What holds of a query of a console, where `later` are the queries behind it and `last` is the
console in the end. -/
structure Kept (e : Exchange Console) (later : List (Exchange Console)) (last : Console) :
    Prop where
  /-- Nothing is asked for a name that has a value. -/
  known : ∀ v, e.before.known.get? e.name = some v →
    e.reply.answer = .ok v ∧ e.reply.state = e.before
  /-- A name without a value is asked for, and that takes one answer if there is one. -/
  asked : e.before.known.get? e.name = none →
    e.reply.state.asked = e.before.asked.push (prompt e.name) ∧
      e.reply.state.answers = e.before.answers.tail
  /-- A number is the value of the name until the end, and the name is not asked for again. -/
  bound : ∀ x, e.before.known.get? e.name = none → e.before.typed? = some x →
    e.reply.answer = .ok (.float x) ∧ last.known.get? e.name = some (.float x) ∧
      ∀ d ∈ later, d.before.known.get? e.name = some (.float x) ∧
        (d.name = e.name → d.reply.answer = .ok (.float x) ∧ d.reply.state = d.before)
  /-- Without a number the query fails and no value changes, and the next query of the name asks
  again. -/
  unbound : e.before.known.get? e.name = none → e.before.typed? = none →
    (∃ want, e.reply.answer = .error (.unresolved e.name want)) ∧
      e.reply.state.known = e.before.known ∧
      ∀ between d rest, later = between ++ d :: rest → (∀ c ∈ between, c.name ≠ e.name) →
        d.name = e.name → d.reply.state.asked = d.before.asked.push (prompt e.name)
  /-- Values stay as they are. -/
  stays : ∀ name v, e.before.known.get? name = some v →
    e.reply.state.known.get? name = some v ∧ last.known.get? name = some v ∧
      ∀ d ∈ later, d.before.known.get? name = some v ∧ d.reply.state.known.get? name = some v

theorem known_of_resolve {c : Console} {name : String} {v : Value}
    (h : c.known.get? name = some v) :
    (resolver.resolve c name).answer = .ok v ∧ (resolver.resolve c name).state = c := by
  rw [resolve_of_known h]
  exact ⟨rfl, rfl⟩

/-- What is known in front of a row of queries is known at each of them and behind it. -/
theorem get?_of_mem_exchanges {c : Console} {names : List String} {name : String} {v : Value}
    (h : c.known.get? name = some v) :
    ∀ d ∈ resolver.exchanges c names, d.before.known.get? name = some v ∧
      d.reply.state.known.get? name = some v ∧ d.reply = resolver.resolve d.before d.name := by
  induction names generalizing c with
  | nil => exact fun d hd => by cases hd
  | cons other names ih =>
    intro d hd
    rcases List.mem_cons.mp hd with rfl | hd
    · exact ⟨h, get?_resolve other h, rfl⟩
    · exact ih (get?_resolve other h) d hd

theorem kept_of_exchanges {first : Console} {names : List String}
    {earlier later : List (Exchange Console)} {e : Exchange Console}
    (h : resolver.exchanges first names = earlier ++ e :: later) :
    Kept e later (resolver.after first names) := by
  obtain ⟨-, hreply, hlater, hlast⟩ := Resolver.of_exchanges_eq resolver h
  constructor
  case known =>
    intro v hv
    rw [hreply]
    exact known_of_resolve hv
  case asked =>
    intro hnone
    rw [hreply, resolve_of_unknown hnone]
    exact ⟨asked_ask e.before e.name, answers_ask e.before e.name⟩
  case bound =>
    intro x hnone hx
    have hanswer : e.reply.answer = .ok (.float x) := by
      rw [hreply, resolve_of_unknown hnone]
      exact (ask_of_typed hx).1
    have hvalue : e.reply.state.known.get? e.name = some (.float x) := by
      rw [hreply] at hanswer ⊢
      exact get?_of_answer hanswer
    refine ⟨hanswer, ?_, fun d hd => ?_⟩
    · rw [hlast]
      exact get?_after _ hvalue
    · rw [hlater] at hd
      obtain ⟨hbefore, -, hd⟩ := get?_of_mem_exchanges hvalue d hd
      refine ⟨hbefore, fun hname => ?_⟩
      rw [hd, hname]
      exact known_of_resolve hbefore
  case unbound =>
    intro hnone hx
    have hsame : e.reply.state.known = e.before.known := by
      rw [hreply, resolve_of_unknown hnone]
      exact (ask_of_not_typed hx).2
    refine ⟨?_, hsame, fun between d rest hsplit hothers hname => ?_⟩
    · rw [hreply, resolve_of_unknown hnone]
      exact (ask_of_not_typed hx).1
    · obtain ⟨hbefore, hd, -, -⟩ := Resolver.of_exchanges_eq resolver (hlater ▸ hsplit)
      have hnotMem : e.name ∉ between.map Exchange.name := by
        intro hmem
        obtain ⟨c, hc, hc'⟩ := List.mem_map.mp hmem
        exact hothers c hc hc'
      have hunknown : d.before.known.get? e.name = none := by
        rw [hbefore, get?_after_of_notMem hnotMem, hsame, hnone]
      rw [hd, hname, resolve_of_unknown hunknown]
      exact asked_ask d.before e.name
  case stays =>
    intro name v hv
    have hvalue : e.reply.state.known.get? name = some v := by
      rw [hreply]
      exact get?_resolve e.name hv
    refine ⟨hvalue, ?_, fun d hd => ?_⟩
    · rw [hlast]
      exact get?_after _ hvalue
    · rw [hlater] at hd
      obtain ⟨hbefore, hbehind, -⟩ := get?_of_mem_exchanges hvalue d hd
      exact ⟨hbefore, hbehind⟩

namespace Session

/-! ### What the caller does -/

variable {s s' : Session}

theorem console_withConsole (s : Session) (c : Console) : (s.withConsole c).console = c := by
  unfold withConsole console
  simp

theorem console_withCopy (s : Session) : s.withCopy.console = s.console := by
  have hown := s.own_lt
  unfold withCopy console
  simp [List.getElem_append_left hown]

/-- The caller's tables are not that of the console. -/
theorem console_withChange {place : Nat} (h : place ∈ s.held)
    (f : Bindings Value → Bindings Value) : (s.withChange place f).console = s.console := by
  have hne : place ≠ s.own := fun heq => s.own_notMem (heq ▸ h)
  unfold withChange console
  simp [List.getElem_modify_ne f _ hne]

/-- **Only queries change the console.** -/
theorem console_act (limit : Nat) (s : Session) (a : Act) :
    (s.act limit a).console = resolver.after s.console (s.queried limit a) := by
  cases a with
  | resolve name => exact console_withConsole s _
  | calculate source =>
    rw [act, console_withConsole]
    exact state_calculateWithin resolver limit s.console source
  | bindings => exact console_withCopy s
  | change index f =>
    rw [act]
    split
    · next place hplace => exact console_withChange (List.mem_of_getElem? hplace) f
    · rfl

/-- The names that are queried depend on the console alone. -/
theorem queried_congr (h : s.console = s'.console) (a : Act) :
    s.queried limit a = s'.queried limit a := by
  cases a with
  | calculate source => rw [queried, queried, h]
  | resolve | bindings | change => rfl

/-- A session is the row of its queries. -/
theorem history_eq (limit : Nat) (s : Session) (as : List Act) :
    s.history limit as =
        resolver.exchanges s.console ((s.history limit as).map Exchange.name) ∧
      (s.acts limit as).console =
        resolver.after s.console ((s.history limit as).map Exchange.name) := by
  induction as generalizing s with
  | nil => exact ⟨rfl, rfl⟩
  | cons a as ih =>
    obtain ⟨hhistory, hlast⟩ := ih (s.act limit a)
    rw [console_act] at hhistory hlast
    rw [history, acts, List.map_append, Resolver.map_name_exchanges, Resolver.exchanges_append,
      Resolver.after_append, ← hhistory, ← hlast]
    exact ⟨rfl, rfl⟩

theorem acts_append (limit : Nat) (s : Session) (as bs : List Act) :
    s.acts limit (as ++ bs) = (s.acts limit as).acts limit bs := by
  induction as generalizing s with
  | nil => rfl
  | cons a as ih => exact ih _

theorem history_append (limit : Nat) (s : Session) (as bs : List Act) :
    s.history limit (as ++ bs) = s.history limit as ++ (s.acts limit as).history limit bs := by
  induction as generalizing s with
  | nil => rfl
  | cons a as ih =>
    rw [List.cons_append, history, history, acts, ih, List.append_assoc]

/-- What the caller does with tables makes no difference to the queries. -/
theorem history_filter (limit : Nat) (as : List Act) (h : s.console = s'.console) :
    s.history limit as = s'.history limit (as.filter Act.isQuery) ∧
      (s.acts limit as).console = (s'.acts limit (as.filter Act.isQuery)).console := by
  induction as generalizing s s' with
  | nil => exact ⟨rfl, h⟩
  | cons a as ih =>
    by_cases ha : a.isQuery = true
    · have hact : (s.act limit a).console = (s'.act limit a).console := by
        rw [console_act, console_act, h, queried_congr h]
      rw [List.filter_cons_of_pos ha, history, history, acts, acts, h, queried_congr h,
        (ih hact).1, (ih hact).2]
      exact ⟨rfl, rfl⟩
    · -- an act that makes no queries leaves the console as it is
      have hnone : s.queried limit a = [] := by
        cases a with
        | resolve name | calculate source => exact absurd rfl ha
        | bindings | change => rfl
      have hact : (s.act limit a).console = s'.console := by
        rw [console_act, hnone, ← h]
        rfl
      rw [List.filter_cons_of_neg ha, history, acts, hnone, (ih hact).1, (ih hact).2]
      exact ⟨rfl, rfl⟩

/-! ### Calculations in a session -/

/-- A query that fails is the failure of the calculation that makes it.  As the failure has no
position, no source is added to it. -/
theorem result_of_failing {c : Console} {source : String} {e : Exchange Console} {f : Failure}
    (he : e ∈ resolver.exchanges c (calculateWithin resolver limit c source).log.queries.toList)
    (hf : e.reply.answer = .error f) :
    (calculateWithin resolver limit c source).result = .error f := by
  obtain ⟨t, -, hresult⟩ := result_calculateWithin_of_mem_exchanges he hf
  rw [Resolver.reply_of_mem_exchanges resolver he] at hf
  obtain ⟨want, rfl⟩ := exists_want_of_answer hf
  exact hresult

/-- **A console asks once for every value**: whatever the caller does with a console that was made
from a table and has some answers still to come, its queries are one row of queries (only they
change the console, and the caller's changes of tables make no difference to them), and each of them
keeps to what is said in `Kept`.  A calculation adds its queries to the row, whether or not it
fails, and it fails with the query that fails. -/
theorem kept_of_session (limit : Nat) (preset : Bindings Value) (answers : List String)
    (as : List Act) :
    let first : Console := { known := preset, answers }
    let session := Session.start preset answers
    let history := session.history limit as
    let last := (session.acts limit as).console
    history = resolver.exchanges first (history.map Exchange.name) ∧
      last = resolver.after first (history.map Exchange.name) ∧
      history = session.history limit (as.filter Act.isQuery) ∧
      last = (session.acts limit (as.filter Act.isQuery)).console ∧
      (∀ earlier e later, history = earlier ++ e :: later → Kept e later last) ∧
      ∀ source,
        let outcome := calculateWithin resolver limit last source
        let queries := resolver.exchanges last outcome.log.queries.toList
        session.history limit (as ++ [.calculate source]) = history ++ queries ∧
          (session.acts limit (as ++ [.calculate source])).console = outcome.log.state ∧
          ∀ e ∈ queries, ∀ f, e.reply.answer = .error f → outcome.result = .error f := by
  intro first session history last
  have hfirst : session.console = first := rfl
  obtain ⟨hhistory, hlast⟩ := history_eq limit session as
  obtain ⟨hfilter, hfilter'⟩ := history_filter limit as (rfl : session.console = session.console)
  rw [hfirst] at hhistory hlast
  refine ⟨hhistory, hlast, hfilter, hfilter', fun earlier e later hsplit => ?_, fun source => ?_⟩
  · have hrow : resolver.exchanges first (history.map Exchange.name) = earlier ++ e :: later :=
      hhistory.symm.trans hsplit
    have hkept := kept_of_exchanges hrow
    rwa [← show last = _ from hlast] at hkept
  · intro outcome queries
    refine ⟨?_, ?_, fun e he f hf => result_of_failing he hf⟩
    · rw [history_append, Session.history, Session.history, List.append_nil]
      rfl
    · rw [acts_append]
      exact console_withConsole _ _

end Session

end Calculator.Console
