import Calculator.Bindings.Session
import Calculator.Proofs.Calculation.Agreement

/-!
# Sessions with a table are their bindings

Whatever the caller does, only numbers that names are bound to change the table in use
(`table_act`), so behind any acts it is the first table with these numbers bound one after the other
(`table_acts`).  Each name has the number it was bound to last, and keeps the place that it got
first (`table_of_acts`).
-/

namespace Calculator.Bindings

/-! ### What acts bind -/

/-- The name that an act binds to a number, with the number, if it does. -/
def Act.bound? : Act → Option (String × Value)
  | bind name value => value.toFloat.toOption.map fun x => (name, .float x)
  | resolve _ | calculate _ | render | change _ => none

theorem Act.bound?_bind_of_error {name : String} {value : Value} {fault : Fault}
    (h : value.toFloat = .error fault) : (bind name value).bound? = none := by
  simp [bound?, h, Except.toOption]

theorem Act.bound?_bind_of_ok {name : String} {value : Value} {x : Float}
    (h : value.toFloat = .ok x) : (bind name value).bound? = some (name, .float x) := by
  simp [bound?, h, Except.toOption]

/-- The numbers that names are bound to in several acts, one after the other. -/
def boundIn (as : List Act) : List (String × Value) :=
  as.filterMap Act.bound?

/-- The value of a name behind several acts: the number that it was bound to last, or else its first
value. -/
def valueBehind? (initial : Bindings Value) (as : List Act) (name : String) : Option Value :=
  ((boundIn as).reverse.lookup name).or (initial.get? name)

/-- The names that have values behind several acts: those of the first table, and then the others in
the order in which they were bound first. -/
def namesBehind (initial : Bindings Value) (as : List Act) : List String :=
  initial.names ++
    (((boundIn as).map Prod.fst).filter fun name => !initial.names.contains name).eraseDups

namespace Session

variable {limits : Limits}

/-! ### One act -/

theorem table_withTable (s : Session) (b : Bindings Value) : (s.withTable b).table = b := by
  unfold withTable table
  simp

/-- The caller's table is not the one in use. -/
theorem table_withChange (s : Session) (f : Bindings Value → Bindings Value) :
    (s.withChange f).table = s.table := by
  unfold withChange table
  simp [List.getElem_modify_ne f _ s.given_ne]

theorem act_bind_of_error {s : Session} {name : String} {value : Value} {fault : Fault}
    (h : value.toFloat = .error fault) :
    s.act limits (.bind name value) = (.error (.fault fault), s) := by
  have hbind : s.table.bind name value = .error fault := by
    rw [Bindings.bind, h]
    rfl
  rw [act, hbind]

theorem act_bind_of_ok {s : Session} {name : String} {value : Value} {x : Float}
    (h : value.toFloat = .ok x) :
    s.act limits (.bind name value) =
      (.ok .done, s.withTable (s.table.insert name (.float x))) := by
  have hbind : s.table.bind name value = .ok (s.table.insert name (.float x)) := by
    rw [Bindings.bind, h]
    rfl
  rw [act, hbind]

/-- **Only numbers that names are bound to change the table in use.** -/
theorem table_act (limits : Limits) (s : Session) (a : Act) :
    (s.act limits a).2.table =
      a.bound?.elim s.table fun entry => s.table.insert entry.1 entry.2 := by
  cases a with
  | bind name value =>
    cases h : value.toFloat with
    | error fault =>
      rw [act_bind_of_error h, Act.bound?_bind_of_error h]
      rfl
    | ok x =>
      rw [act_bind_of_ok h, Act.bound?_bind_of_ok h]
      exact table_withTable s _
  | resolve name =>
    have hstate : (Resolver.table.resolve s.table name).state = s.table := by
      rw [Resolver.resolve_table]
    exact (table_withTable s _).trans hstate
  | calculate source =>
    have hstate := state_calculateWithin_table limits.parentheses s.table source
    exact (table_withTable s _).trans hstate
  | render => rfl
  | change f => exact table_withChange s f

/-! ### Many acts -/

theorem table_acts (limits : Limits) (s : Session) (as : List Act) :
    (s.acts limits as).table =
      (boundIn as).foldl (fun b entry => b.insert entry.1 entry.2) s.table := by
  induction as generalizing s with
  | nil => rfl
  | cons a as ih =>
    have hfirst := table_act limits s a
    rw [acts, ih, hfirst]
    unfold boundIn
    rw [List.filterMap_cons]
    cases a.bound? <;> rfl

theorem get?_acts (limits : Limits) (initial : Bindings Value) (as : List Act) (name : String) :
    ((start initial).acts limits as).table.get? name = valueBehind? initial as name := by
  rw [table_acts, get?_foldl_insert]
  rfl

theorem names_acts (limits : Limits) (initial : Bindings Value) (as : List Act) :
    ((start initial).acts limits as).table.names = namesBehind initial as := by
  rw [table_acts, names_foldl_insert]
  rfl

/-! ### Tables as they are shown -/

theorem renderEntries_eq (entries : List (String × Value)) :
    Value.renderEntries entries =
      entries.map fun entry => Text.quoted entry.1 ++ ": " ++ entry.2.render := by
  induction entries with
  | nil => rfl
  | cons entry rest ih => rw [Value.renderEntries, ih, List.map_cons]

/-- A table is shown name after name. -/
theorem render_eq {b : Bindings Value} {value? : String → Option Value}
    (h : ∀ name, b.get? name = value? name) :
    b.render = "MappingResolver(\x7b" ++
      ", ".intercalate (b.names.map fun name =>
        Text.quoted name ++ ": " ++ ((value? name).map Value.render).getD "") ++ "\x7d)" := by
  have hentries : (b.entries.map fun entry => Text.quoted entry.1 ++ ": " ++ entry.2.render) =
      b.names.map fun name =>
        Text.quoted name ++ ": " ++ ((value? name).map Value.render).getD "" := by
    unfold names
    rw [List.map_map]
    refine List.map_congr_left ?_
    rintro ⟨name, value⟩ hmem
    have hvalue : value? name = some value := by rw [← h, get?_of_mem hmem]
    simp only [Function.comp_apply, hvalue, Option.map_some, Option.getD_some]
  unfold render Value.render
  rw [renderEntries_eq, hentries]
  simp only [String.append_assoc]
  rfl

/-! ### Whole sessions -/

/-- **A table in use is an ordered map**: behind any acts each name has the number that it was bound
to last, or else its first value as it was given, and the names stand in the order in which they
were first there.  A query gives the value of its name or fails for want of one; a value that is no
number is not bound, and nothing changes; a number changes the value of its name, which keeps its
place or goes to the end; the table is shown name after name; a calculation sees these values; and
no act but a binding changes the table, the caller's changes of the table that it was made from
included. -/
theorem table_of_acts (limits : Limits) (initial : Bindings Value) (as : List Act) :
    let s := (start initial).acts limits as
    let value? := valueBehind? initial as
    let names := namesBehind initial as
    (∀ name, s.table.get? name = value? name) ∧ s.table.names = names ∧
      (∀ name, (s.act limits (.resolve name)).1 =
        (value? name).elim (.error (.unresolved name .undefined)) fun v => .ok (.value v)) ∧
      (∀ name value fault, value.toFloat = .error fault →
        s.act limits (.bind name value) = (.error (.fault fault), s)) ∧
      (∀ name value x, value.toFloat = .ok x →
        let behind := s.act limits (.bind name value)
        behind.1 = .ok .done ∧
          (∀ other, behind.2.table.get? other =
            if other = name then some (.float x) else value? other) ∧
          (name ∈ names → behind.2.table.names = names) ∧
          (name ∉ names → behind.2.table.names = names ++ [name])) ∧
      (s.act limits .render).1 = ((Value.table s.table.entries).hindrance? limits.shown).elim
        (.ok (.text ("MappingResolver(\x7b" ++ ", ".intercalate (names.map fun name =>
          Text.quoted name ++ ": " ++ ((value? name).map Value.render).getD "") ++ "\x7d)")))
        (fun fault => .error (.fault fault)) ∧
      (∀ source c, (∀ name, c.get? name = value? name) →
        (s.act limits (.calculate source)).1 =
          (calculateWithin Resolver.table limits.parentheses c source).result.map .number) ∧
      ∀ a, (∀ name value, a ≠ .bind name value) → (s.act limits a).2.table = s.table := by
  intro s value? names
  have hget : ∀ name, s.table.get? name = value? name := get?_acts limits initial as
  have hnames : s.table.names = names := names_acts limits initial as
  refine ⟨hget, hnames, ?_, fun _ _ _ h => act_bind_of_error h, ?_, ?_, ?_, ?_⟩
  · intro name
    have hanswer : (s.act limits (.resolve name)).1 =
        (Resolver.table.resolve s.table name).answer.map .value := rfl
    rw [hanswer, Resolver.resolve_table, hget]
    cases value? name <;> rfl
  · intro name value x h behind
    have hbehind : behind = (.ok .done, s.withTable (s.table.insert name (.float x))) :=
      act_bind_of_ok h
    rw [hbehind]
    refine ⟨rfl, ?_, ?_, ?_⟩
    · intro other
      rw [table_withTable, get?_insert, hget]
    · intro hmem
      rw [table_withTable, names_insert_of_mem (hnames ▸ hmem), hnames]
    · intro hmem
      rw [table_withTable, names_insert_of_notMem (hnames ▸ hmem), hnames]
  · have hanswer : (s.act limits .render).1 =
        ((s.table.shown limits).mapError .fault).map .text := rfl
    rw [hanswer, shown, render_eq hget, hnames]
    cases (Value.table s.table.entries).hindrance? limits.shown <;> rfl
  · intro source c hc
    have hanswer : (s.act limits (.calculate source)).1 =
        (calculateWithin Resolver.table limits.parentheses s.table source).result.map .number := rfl
    have hagree : ∀ name ∈ (calculateWithin Resolver.table limits.parentheses s.table
        source).log.queries.toList, c.get? name = s.table.get? name :=
      fun name _ => (hc name).trans (hget name).symm
    rw [hanswer, calculateWithin_of_agree hagree]
    rfl
  · intro a ha
    have hbound : a.bound? = none := by
      cases a with
      | bind name value => exact absurd rfl (ha name value)
      | resolve | calculate | render | change => rfl
    rw [table_act, hbound]
    rfl

/-- Acts of a caller of whom two fail. -/
def mixedActs : List Act :=
  [.bind "x" (.text " 2.5 "), .change fun _ => .empty, .bind "z" (.list []), .bind "z" (.int 1),
    .calculate "x+q", .bind "y" (.bool true)]

/-- Behind these acts `y` and `x` keep the places that they had, `z` stands last, and a value that
is no number is still not bound. -/
theorem table_of_acts_mixed :
    let s := (start (ofList [("y", .text "7"), ("x", .null)])).acts .usual mixedActs
    s.table.names = ["y", "x", "z"] ∧
      (s.act .usual (.resolve "x")).1 = .ok (.value (.float 2.5)) ∧
      (s.act .usual (.resolve "q")).1 = .error (.unresolved "q" .undefined) ∧
      Value.toFloat .null = .error (.notNumeric "NoneType") ∧
      s.act .usual (.bind "q" .null) = (.error (.fault (.notNumeric "NoneType")), s) := by
  intro s
  obtain ⟨-, hnames, hresolve, hfails, -⟩ :=
    table_of_acts .usual (ofList [("y", .text "7"), ("x", .null)]) mixedActs
  have hread : Value.toFloat (.text " 2.5 ") = .ok 2.5 := by decide +kernel
  have hwhole : Value.toFloat (.int 1) = .ok 1.0 := by decide +kernel
  have hbound : boundIn mixedActs = [("x", .float 2.5), ("z", .float 1.0), ("y", .float 1.0)] := by
    rw [boundIn, mixedActs, List.filterMap_cons_some (Act.bound?_bind_of_ok hread),
      List.filterMap_cons_none rfl, List.filterMap_cons_none rfl,
      List.filterMap_cons_some (Act.bound?_bind_of_ok hwhole), List.filterMap_cons_none rfl]
    rfl
  have hlist : namesBehind (ofList [("y", .text "7"), ("x", .null)]) mixedActs =
      ["y", "x", "z"] := by
    rw [namesBehind, hbound]
    decide +kernel
  have hx : valueBehind? (ofList [("y", .text "7"), ("x", .null)]) mixedActs "x" =
      some (.float 2.5) := by
    rw [valueBehind?, hbound]
    rfl
  have hq : valueBehind? (ofList [("y", .text "7"), ("x", .null)]) mixedActs "q" = none := by
    rw [valueBehind?, hbound]
    rfl
  refine ⟨hnames.trans hlist, ?_, ?_, rfl, hfails "q" .null _ rfl⟩
  · rw [hresolve, hx]
    rfl
  · rw [hresolve, hq]
    rfl

end Session

end Calculator.Bindings
