import Calculator.Proofs.Resolver.Console
import Calculator.Resolver.Source
import Calculator.Resolver.Valuation

/-!
# Consoles and tables as valuations

A console learns the values of names while it is queried.  Nevertheless its answers are those of a
valuation that is fixed from the start, made of what it knows and of the answers that will be typed
for the names that it does not know (`answers_eq_valuation`): if only the last query may fail, each
of these names is asked for once, and the answers are used up in the order of the names.
-/

namespace Calculator

theorem Valuation.answers_resolver (v : Valuation) (names : List String) :
    v.resolver.answers () names =
      names.map fun name => (v name).mapError (Failure.unresolved name) := by
  induction names with
  | nil => rfl
  | cons name names ih => exact congrArg _ ih

namespace Console

variable {c : Console} {name : String}

/-! ### One query -/

theorem typed?_eq_some_iff {x : Float} : c.typed? = some x ↔ typed c.answers.head? = .ok x := by
  unfold typed? typed
  cases c.answers.head? with
  | none => simp
  | some answer =>
    dsimp only [Option.bind_some]
    cases Decimal.float? (Text.strip answer) <;> simp

/-- The answer to a name that is not known. -/
theorem answer_ask (c : Console) (name : String) :
    (c.ask name).answer =
      ((typed c.answers.head?).map Value.float).mapError (Failure.unresolved name) := by
  unfold ask typed
  cases c.answers with
  | nil => rfl
  | cons answer answers =>
    dsimp only [List.head?_cons]
    cases Decimal.float? (Text.strip answer) <;> rfl

theorem valuation_of_known {v : Value} (h : c.known.get? name = some v) (asked : List String) :
    c.valuation asked name = .ok v := by
  unfold valuation
  rw [h]

/-- The first name that is asked for gets the first answer. -/
theorem valuation_of_unknown (h : c.known.get? name = none) (asked : List String) :
    c.valuation (name :: asked) name = (typed c.answers.head?).map Value.float := by
  unfold valuation typedFor
  rw [h, List.idxOf?_cons, beq_self_eq_true, List.head?_eq_getElem?]
  rfl

/-- When a name has been asked for and a number was typed, its value is that number; for all other
names nothing has changed but that there is one answer less. -/
theorem valuation_ask {x : Float} (h : c.known.get? name = none) (hx : c.typed? = some x)
    (asked : List String) : (c.ask name).state.valuation asked = c.valuation (name :: asked) := by
  funext other
  by_cases hname : other = name
  · have hknown : (c.ask name).state.known.get? name = some (.float x) := by
      rw [(ask_of_typed hx).2, Bindings.get?_insert, if_pos rfl]
    rw [hname, valuation_of_known hknown, valuation_of_unknown h, typed?_eq_some_iff.mp hx]
    rfl
  · -- the first name has used up the first answer, so the indices still fit
    have hne : (name == other) = false := beq_eq_false_iff_ne.mpr (Ne.symm hname)
    unfold valuation typedFor
    rw [(ask_of_typed hx).2, Bindings.get?_insert, if_neg hname, answers_ask, List.idxOf?_cons, hne]
    cases c.known.get? other with
    | some v => rfl
    | none =>
      cases asked.idxOf? other with
      | none => rfl
      | some i => simp only [Bool.false_eq_true, ↓reduceIte, Option.map_some, List.getElem?_tail]

/-! ### The names that are asked for -/

/-- The names that a console does not know, each once and in the order in which they occur first. -/
def newNames (c : Console) (names : List String) : List String :=
  (names.filter fun name => (c.known.get? name).isNone).eraseDups

theorem newNames_of_known {c : Console} {name : String} {v : Value}
    (h : c.known.get? name = some v) (names : List String) :
    c.newNames (name :: names) = c.newNames names := by
  unfold newNames
  rw [List.filter_cons_of_neg (by simp [h])]

/-- The first name is new, and from then on it is not. -/
theorem newNames_of_unknown {c c' : Console} {name : String} {v : Value}
    (h : c.known.get? name = none) (hc : c'.known = c.known.insert name v) (names : List String) :
    c.newNames (name :: names) = name :: c'.newNames names := by
  have hfilter : ∀ other : String,
      (!(other == name) && (c.known.get? other).isNone) = (c'.known.get? other).isNone := by
    intro other
    rw [hc, Bindings.get?_insert]
    by_cases hname : other = name
    · simp [hname]
    · simp [hname]
  unfold newNames
  rw [List.filter_cons_of_pos (by simp [h]), List.eraseDups_cons, List.filter_filter]
  simp only [hfilter]

/-! ### Many queries -/

theorem valuation_of_one {last : List String} (hlast : last.length ≤ 1) :
    resolver.answers c last = (c.valuation (c.newNames last)).resolver.answers () last ∧
      (resolver.after c last).asked.toList = c.asked.toList ++ (c.newNames last).map prompt := by
  match last, hlast with
  | [], _ => exact ⟨rfl, (List.append_nil _).symm⟩
  | [name], _ =>
    rw [Valuation.answers_resolver, List.map_singleton]
    cases hv : c.known.get? name with
    | some v =>
      constructor
      · show [(resolver.resolve c name).answer] = [_]
        rw [resolve_of_known hv, valuation_of_known hv]
        rfl
      · show (resolver.resolve c name).state.asked.toList = _
        rw [resolve_of_known hv, newNames_of_known hv]
        exact (List.append_nil _).symm
    | none =>
      have hnew : c.newNames [name] = [name] := by
        unfold newNames
        rw [List.filter_cons_of_pos (by simp [hv])]
        rfl
      rw [hnew]
      constructor
      · show [(resolver.resolve c name).answer] = [_]
        rw [resolve_of_unknown hv, answer_ask, valuation_of_unknown hv]
      · show (resolver.resolve c name).state.asked.toList = _
        rw [resolve_of_unknown hv, asked_ask, Array.toList_push]
        rfl

/-- **A console answers like a valuation** if only the last query may fail, and it asks for the
names that it does not know, each once and in the order in which they occur first. -/
theorem answers_eq_valuation {names : List String} (h : resolver.AnswersButLast c names) :
    resolver.answers c names = (c.valuation (c.newNames names)).resolver.answers () names ∧
      (resolver.after c names).asked.toList = c.asked.toList ++ (c.newNames names).map prompt := by
  obtain ⟨earlier, last, rfl, hlast, hok⟩ := h
  -- each of the earlier names is known, or it gets a value and is known from then on
  induction earlier generalizing c with
  | nil => exact valuation_of_one hlast
  | cons name earlier ih =>
    obtain ⟨⟨v, hanswer⟩, hrest⟩ := List.forall_mem_cons.mp hok
    obtain ⟨hanswers, hasked⟩ := ih hrest
    rw [Valuation.answers_resolver] at hanswers ⊢
    show (resolver.resolve c name).answer ::
        resolver.answers (resolver.resolve c name).state (earlier ++ last) = _ ∧
      (resolver.after (resolver.resolve c name).state (earlier ++ last)).asked.toList = _
    rw [hanswers, hasked, List.cons_append, List.map_cons]
    cases hv : c.known.get? name with
    | some v =>
      -- the console stays as it is
      rw [resolve_of_known hv, newNames_of_known hv, valuation_of_known hv]
      exact ⟨rfl, rfl⟩
    | none =>
      dsimp only at hanswer
      rw [resolve_of_unknown hv] at hanswer ⊢
      cases hx : c.typed? with
      | none =>
        obtain ⟨want, hwant⟩ := (@ask_of_not_typed c name hx).1
        rw [hwant] at hanswer
        cases hanswer
      | some x =>
        rw [newNames_of_unknown hv (ask_of_typed hx).2, ← valuation_ask hv hx, asked_ask,
          Array.toList_push, List.append_assoc, valuation_ask hv hx, valuation_of_unknown hv,
          answer_ask]
        exact ⟨rfl, rfl⟩

end Console

namespace Source

/-! ### Tables and consoles as sources -/

theorem answers_console (c : Console) (names : List String) :
    resolver.answers (.console c) names = Console.resolver.answers c names ∧
      resolver.after (.console c) names = .console (Console.resolver.after c names) := by
  induction names generalizing c with
  | nil => exact ⟨rfl, rfl⟩
  | cons name names ih =>
    obtain ⟨hanswers, hafter⟩ := ih (Console.resolver.resolve c name).state
    exact ⟨congrArg _ hanswers, hafter⟩

/-- A table answers like a valuation, and stays as it is. -/
theorem answers_table (bindings : Bindings Value) (names : List String) :
    resolver.answers (.table bindings) names =
        (Console.valuation { known := bindings } []).resolver.answers () names ∧
      resolver.after (.table bindings) names = .table bindings := by
  rw [Valuation.answers_resolver]
  induction names with
  | nil => exact ⟨rfl, rfl⟩
  | cons name names ih =>
    have hstate : (resolver.resolve (.table bindings) name).state = .table bindings := by
      unfold resolver Resolver.table
      dsimp only
      split <;> rfl
    have hanswer : (resolver.resolve (.table bindings) name).answer =
        (Console.valuation { known := bindings } [] name).mapError (Failure.unresolved name) := by
      unfold resolver Resolver.table Console.valuation
      dsimp only
      cases bindings.get? name <;> rfl
    show (resolver.resolve (.table bindings) name).answer ::
        resolver.answers (resolver.resolve (.table bindings) name).state names = _ ∧
      resolver.after (resolver.resolve (.table bindings) name).state names = _
    rw [hstate, hanswer, ih.1, ih.2]
    exact ⟨rfl, rfl⟩

end Source

end Calculator
