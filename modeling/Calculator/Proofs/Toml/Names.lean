import Calculator.Proofs.Results
import Calculator.Toml.Document

/-!
# Names of a configuration

A configuration that gives one name twice in a table is not read: in what is read, every table has
distinct names, however deep it stands (`isDistinct_of_read_eq_ok`).  Statements change the tree of
tables by changing what single names lead to, which does not bring a name in twice
(`areDistinct_alter`), and tables on one line grow in the same way.
-/

namespace Calculator

/-- Whether all tables of a value have distinct names. -/
inductive Value.IsDistinct : Value → Prop
  | scalar {value : Value} (no_list : ∀ items, value ≠ .list items)
      (no_table : ∀ entries, value ≠ .table entries) : IsDistinct value
  | list {items : List Value} (h : ∀ item ∈ items, item.IsDistinct) : IsDistinct (.list items)
  | table {entries : List (String × Value)} (names : (entries.map Prod.fst).Nodup)
      (values : ∀ entry ∈ entries, entry.2.IsDistinct) : IsDistinct (.table entries)

theorem Value.isDistinct_list_iff {items : List Value} :
    (Value.list items).IsDistinct ↔ ∀ item ∈ items, item.IsDistinct := by
  constructor
  · intro h
    cases h with
    | scalar no_list _ => exact absurd rfl (no_list items)
    | list h => exact h
  · exact .list

theorem Value.isDistinct_table_iff {entries : List (String × Value)} :
    (Value.table entries).IsDistinct ↔
      (entries.map Prod.fst).Nodup ∧ ∀ entry ∈ entries, entry.2.IsDistinct := by
  constructor
  · intro h
    cases h with
    | scalar _ no_table => exact absurd rfl (no_table entries)
    | table names values => exact ⟨names, values⟩
  · rintro ⟨names, values⟩
    exact .table names values

namespace Toml

variable {cs rest : List Char} {item : Value} {entries entries' : Entries} {name : String}
  {path : List String}

/-! ### Trees of tables -/

/-- Whether all tables that entries have grown to have distinct names, that of the entries
included. -/
structure AreDistinct (entries : Entries) : Prop where
  names : (entries.map Prod.fst).Nodup
  nodes : ∀ entry ∈ entries, entry.2.value.IsDistinct

theorem areDistinct_nil : AreDistinct [] where
  names := List.nodup_nil
  nodes := List.forall_mem_nil _

theorem entryValues_eq_map (entries : Entries) :
    entryValues entries = entries.map fun entry => (entry.1, entry.2.value) := by
  induction entries with
  | nil => rw [entryValues, List.map_nil]
  | cons entry entries ih => rw [entryValues, ih, List.map_cons]

theorem isDistinct_entryValues_iff :
    (Value.table (entryValues entries)).IsDistinct ↔ AreDistinct entries := by
  have hnames : (entryValues entries).map Prod.fst = entries.map Prod.fst := by
    rw [entryValues_eq_map, List.map_map]
    rfl
  have hvalues : (∀ entry ∈ entryValues entries, entry.2.IsDistinct) ↔
      ∀ entry ∈ entries, entry.2.value.IsDistinct := by
    rw [entryValues_eq_map, List.forall_mem_map]
  rw [Value.isDistinct_table_iff, hnames, hvalues]
  exact ⟨fun h => ⟨h.1, h.2⟩, fun h => ⟨h.names, h.nodes⟩⟩

theorem Node.isDistinct_table_iff {origin : Origin} :
    (Node.table origin entries).value.IsDistinct ↔ AreDistinct entries := by
  rw [Node.value, isDistinct_entryValues_iff]

theorem Node.isDistinct_tables_iff {closed : List Value} :
    (Node.tables closed entries).value.IsDistinct ↔
      (∀ item ∈ closed, item.IsDistinct) ∧ AreDistinct entries := by
  rw [Node.value, Value.isDistinct_list_iff]
  simp only [List.forall_mem_append, List.mem_reverse, List.forall_mem_singleton,
    isDistinct_entryValues_iff]

/-! ### Changes of a tree -/

/-- Whether a change of what a name leads to does not bring in a name twice. -/
def KeepsDistinct (f : Option Node → Option Node) : Prop :=
  ∀ old new, (∀ node ∈ old, node.value.IsDistinct) → f old = some new → new.value.IsDistinct

section Alter

variable {f : Option Node → Option Node}

/-- A change of what a name leads to adds that name only, and only if it was not there. -/
theorem names_alter (h : alter name f entries = some entries') :
    entries'.map Prod.fst =
      if name ∈ entries.map Prod.fst then entries.map Prod.fst
      else entries.map Prod.fst ++ [name] := by
  induction entries generalizing entries' with
  | nil =>
    obtain ⟨node, -, rfl⟩ := Option.map_eq_some_iff.mp h
    rfl
  | cons entry entries ih =>
    obtain ⟨n, node⟩ := entry
    unfold alter at h
    split at h
    · next hname =>
      obtain ⟨node', -, rfl⟩ := Option.map_eq_some_iff.mp h
      simp [hname]
    · next hname =>
      obtain ⟨entries'', hrest, rfl⟩ := Option.map_eq_some_iff.mp h
      have hne : name ≠ n := fun heq => hname heq.symm
      simp only [List.map_cons, ih hrest, List.mem_cons, hne, false_or]
      split <;> rfl

/-- The nodes behind a change are those before it, and what one of them, or nothing, was changed
to. -/
theorem mem_alter (h : alter name f entries = some entries') {entry : String × Node}
    (hentry : entry ∈ entries') :
    entry ∈ entries ∨
      ∃ old, f old = some entry.2 ∧ ∀ node ∈ old, ∃ n, (n, node) ∈ entries := by
  induction entries generalizing entries' with
  | nil =>
    obtain ⟨node, hnode, rfl⟩ := Option.map_eq_some_iff.mp h
    cases List.mem_singleton.mp hentry
    exact .inr ⟨none, hnode, nofun⟩
  | cons first entries ih =>
    obtain ⟨n, node⟩ := first
    unfold alter at h
    split at h
    · obtain ⟨node', hnode, rfl⟩ := Option.map_eq_some_iff.mp h
      rcases List.mem_cons.mp hentry with rfl | hmem
      · refine .inr ⟨some node, hnode, ?_⟩
        rintro _ ⟨⟩
        exact ⟨n, List.mem_cons_self ..⟩
      · exact .inl (List.mem_cons_of_mem _ hmem)
    · obtain ⟨entries'', hrest, rfl⟩ := Option.map_eq_some_iff.mp h
      rcases List.mem_cons.mp hentry with rfl | hmem
      · exact .inl (List.mem_cons_self ..)
      · rcases ih hrest hmem with hold | ⟨old, hnode, hold⟩
        · exact .inl (List.mem_cons_of_mem _ hold)
        · refine .inr ⟨old, hnode, fun node hmem => ?_⟩
          obtain ⟨n', hn'⟩ := hold node hmem
          exact ⟨n', List.mem_cons_of_mem _ hn'⟩

/-- **A change of what a name leads to keeps the names distinct.** -/
theorem areDistinct_alter (hf : KeepsDistinct f) (hentries : AreDistinct entries)
    (h : alter name f entries = some entries') : AreDistinct entries' where
  names := by
    rw [names_alter h]
    split
    · exact hentries.names
    · next hname =>
      have hne : ∀ n ∈ entries.map Prod.fst, n ≠ name := by
        rintro n hn rfl
        exact hname hn
      exact List.nodup_append.mpr ⟨hentries.names, List.pairwise_singleton _ _, by simpa using hne⟩
  nodes := by
    intro entry hentry
    rcases mem_alter h hentry with hmem | ⟨old, hnode, hold⟩
    · exact hentries.nodes entry hmem
    · refine hf old entry.2 (fun node hnode => ?_) hnode
      obtain ⟨n, hmem⟩ := hold node hnode
      exact hentries.nodes (n, node) hmem

end Alter

theorem areDistinct_within {f : Entries → Option Entries}
    (hf : ∀ entries entries', AreDistinct entries → f entries = some entries' →
      AreDistinct entries')
    (hentries : AreDistinct entries) (h : within f path entries = some entries') :
    AreDistinct entries' := by
  induction path generalizing entries entries' with
  | nil => exact hf entries entries' hentries h
  | cons name path ih =>
    unfold within at h
    refine areDistinct_alter ?_ hentries h
    intro old new hold hnew
    match old with
    | none =>
      -- a table that is not there yet grows from no names
      obtain ⟨inner, hinner, rfl⟩ := Option.map_eq_some_iff.mp hnew
      exact Node.isDistinct_table_iff.mpr (ih areDistinct_nil hinner)
    | some (.table origin inner) =>
      obtain ⟨inner', hinner, rfl⟩ := Option.map_eq_some_iff.mp hnew
      have hdistinct := Node.isDistinct_table_iff.mp (hold _ rfl)
      exact Node.isDistinct_table_iff.mpr (ih hdistinct hinner)
    | some (.tables closed inner) =>
      obtain ⟨inner', hinner, rfl⟩ := Option.map_eq_some_iff.mp hnew
      obtain ⟨hclosed, hdistinct⟩ := Node.isDistinct_tables_iff.mp (hold _ rfl)
      exact Node.isDistinct_tables_iff.mpr ⟨hclosed, ih hdistinct hinner⟩
    | some (.leaf _) => cases hnew

theorem areDistinct_assign {part : Nat} (hitem : item.IsDistinct)
    (hentries : AreDistinct entries) (h : assign part item path entries = some entries') :
    AreDistinct entries' := by
  induction path generalizing entries entries' with
  | nil => cases h
  | cons name path ih =>
    -- the last part of a key gets the value, the parts in front of it lead to tables
    cases path with
    | nil =>
      unfold assign at h
      refine areDistinct_alter ?_ hentries h
      intro old new _ hnew
      match old with
      | none =>
        cases hnew
        rwa [Node.value]
      | some _ => cases hnew
    | cons next path =>
      unfold assign at h
      refine areDistinct_alter ?_ hentries h
      intro old new hold hnew
      match old with
      | none =>
        obtain ⟨inner, hinner, rfl⟩ := Option.map_eq_some_iff.mp hnew
        exact Node.isDistinct_table_iff.mpr (ih areDistinct_nil hinner)
      | some (.table origin inner) =>
        dsimp only at hnew
        split at hnew
        · obtain ⟨inner', hinner, rfl⟩ := Option.map_eq_some_iff.mp hnew
          have hdistinct := Node.isDistinct_table_iff.mp (hold _ rfl)
          exact Node.isDistinct_table_iff.mpr (ih hdistinct hinner)
        · cases hnew
      | some (.leaf _) | some (.tables _ _) => cases hnew

theorem areDistinct_openTable (hentries : AreDistinct entries)
    (h : openTable path entries = some entries') : AreDistinct entries' := by
  unfold openTable at h
  split at h
  · cases h
  · refine areDistinct_within (fun inner inner' hinner => areDistinct_alter ?_ hinner) hentries h
    intro old new hold hnew
    match old with
    | none =>
      cases hnew
      exact Node.isDistinct_table_iff.mpr areDistinct_nil
    | some (.table .passing inner) =>
      cases hnew
      exact Node.isDistinct_table_iff.mpr (Node.isDistinct_table_iff.mp (hold _ rfl))
    | some (.table .header _) | some (.table (.keyed _) _) | some (.leaf _) |
      some (.tables _ _) => cases hnew

theorem areDistinct_appendTable (hentries : AreDistinct entries)
    (h : appendTable path entries = some entries') : AreDistinct entries' := by
  unfold appendTable at h
  split at h
  · cases h
  · refine areDistinct_within (fun inner inner' hinner => areDistinct_alter ?_ hinner) hentries h
    intro old new hold hnew
    match old with
    | none =>
      cases hnew
      exact Node.isDistinct_tables_iff.mpr ⟨List.forall_mem_nil _, areDistinct_nil⟩
    | some (.tables closed inner) =>
      cases hnew
      -- the table that ends here joins the closed ones
      obtain ⟨hclosed, hinner⟩ := Node.isDistinct_tables_iff.mp (hold _ rfl)
      have hlast := isDistinct_entryValues_iff.mpr hinner
      exact Node.isDistinct_tables_iff.mpr
        ⟨List.forall_mem_cons.mpr ⟨hlast, hclosed⟩, areDistinct_nil⟩
    | some (.leaf _) | some (.table _ _) => cases hnew

/-! ### Values -/

theorem fits_eq_ok_iff {α : Type} {x : Option α} {a : α} : fits x = .ok a ↔ x = some a := by
  unfold fits
  cases x with
  | none =>
    constructor
    · intro h
      cases h
    · intro h
      cases h
  | some b => rw [Except.ok.injEq, Option.some.injEq]

theorem isDistinct_of_truth? (h : truth? cs = some (item, rest)) : item.IsDistinct := by
  unfold truth? at h
  split at h
  · cases h
    exact .scalar nofun nofun
  · cases h
    exact .scalar nofun nofun
  · cases h

theorem isDistinct_of_basedInt? (h : basedInt? cs = some (item, rest)) : item.IsDistinct := by
  unfold basedInt? at h
  split at h
  · obtain ⟨⟨base, p⟩, -, h⟩ := Option.bind_eq_some_iff.mp h
    dsimp only at h
    split at h
    · cases h
    · cases h
      exact .scalar nofun nofun
  · cases h

theorem isDistinct_of_decimalInt {negative : Bool} (h : decimalInt negative cs = .ok item) :
    item.IsDistinct := by
  unfold decimalInt at h
  dsimp only at h
  split at h
  · cases h
  · cases h
    exact .scalar nofun nofun

theorem isDistinct_of_wordFloat? {negative : Bool}
    (h : wordFloat? negative cs = some (item, rest)) : item.IsDistinct := by
  unfold wordFloat? at h
  split at h
  · cases h
    exact .scalar nofun nofun
  · cases h
    exact .scalar nofun nofun
  · cases h

theorem isDistinct_of_number (h : number cs = .ok (item, rest)) : item.IsDistinct := by
  unfold number at h
  split at h
  · next hbased =>
    cases h
    exact isDistinct_of_basedInt? hbased
  · unfold decimalNumber at h
    dsimp only at h
    split at h
    · split at h
      · next hword =>
        cases h
        exact isDistinct_of_wordFloat? hword
      · cases h
    · split at h
      · obtain ⟨value, hvalue, heq⟩ := map_eq_ok.mp h
        cases heq
        exact isDistinct_of_decimalInt hvalue
      · split at h
        · cases h
          exact .scalar nofun nofun
        · cases h

theorem isDistinct_of_dateOrTime? (h : dateOrTime? cs = some (.ok (item, rest))) :
    item.IsDistinct := by
  unfold dateOrTime? at h
  split at h
  · have h := Option.some.inj h
    split at h
    · cases h
    · split at h
      · cases h
        exact .scalar nofun nofun
      · cases h
        exact .scalar nofun nofun
  · obtain ⟨⟨t, rest'⟩, -, heq⟩ := Option.map_eq_some_iff.mp h
    cases heq
    exact .scalar nofun nofun

theorem isDistinct_of_scalar (h : scalar cs = .ok (item, rest)) : item.IsDistinct := by
  unfold scalar at h
  cases hdate : dateOrTime? cs with
  | none =>
    rw [hdate] at h
    exact isDistinct_of_number h
  | some read =>
    rw [hdate] at h
    have hread : read = .ok (item, rest) := h
    exact isDistinct_of_dateOrTime? (hread ▸ hdate)

/-- Whether what is read with a bound on the steps has distinct names: values, the items of lists,
and the entries of tables on one line behind distinct ones. -/
structure ReadsDistinct (bound : Nat) : Prop where
  value : ∀ room cs item rest, Toml.value bound room cs = .ok (item, rest) → item.IsDistinct
  items : ∀ room cs items rest, listItems bound room cs = .ok (items, rest) →
    ∀ item ∈ items, item.IsDistinct
  entries : ∀ room cs entries entries' rest, AreDistinct entries →
    tableItems bound room entries cs = .ok (entries', rest) → AreDistinct entries'

section Step

variable {bound room : Nat}

theorem ReadsDistinct.value_succ (ih : ReadsDistinct bound)
    (h : Toml.value (bound + 1) room cs = .ok (item, rest)) : item.IsDistinct := by
  unfold Toml.value at h
  split at h
  · obtain ⟨⟨text, rest'⟩, -, heq⟩ := map_eq_ok.mp h
    cases heq
    exact .scalar nofun nofun
  · next htruth =>
    cases h
    exact isDistinct_of_truth? htruth
  · split at h
    · cases h
    · obtain ⟨inner, -, h⟩ := bind_eq_ok.mp h
      obtain ⟨⟨items, rest'⟩, hitems, h⟩ := bind_eq_ok.mp h
      cases h
      exact .list (ih.items _ _ _ _ hitems)
  · split at h
    · cases h
    · split at h
      · cases h
        exact isDistinct_entryValues_iff.mpr areDistinct_nil
      · obtain ⟨⟨entries, rest'⟩, hentries, h⟩ := bind_eq_ok.mp h
        cases h
        exact isDistinct_entryValues_iff.mpr (ih.entries _ _ _ _ _ areDistinct_nil hentries)
  · exact isDistinct_of_scalar h

theorem ReadsDistinct.items_succ (ih : ReadsDistinct bound) {items : List Value}
    (h : listItems (bound + 1) room cs = .ok (items, rest)) : ∀ item ∈ items, item.IsDistinct := by
  unfold listItems at h
  split at h
  · cases h
  · cases h
    exact List.forall_mem_nil _
  · next hbound _ =>
    cases hbound
    obtain ⟨⟨item, behind⟩, hitem, h⟩ := bind_eq_ok.mp h
    obtain ⟨next, -, h⟩ := bind_eq_ok.mp h
    have hfirst := ih.value _ _ _ _ hitem
    split at h
    · cases h
      exact List.forall_mem_singleton.mpr hfirst
    · obtain ⟨next', -, h⟩ := bind_eq_ok.mp h
      obtain ⟨⟨others, rest'⟩, hothers, h⟩ := bind_eq_ok.mp h
      cases h
      exact List.forall_mem_cons.mpr ⟨hfirst, ih.items _ _ _ _ hothers⟩
    · cases h

theorem ReadsDistinct.entries_succ (ih : ReadsDistinct bound) (hentries : AreDistinct entries)
    (h : tableItems (bound + 1) room entries cs = .ok (entries', rest)) : AreDistinct entries' := by
  unfold tableItems at h
  obtain ⟨⟨path, behind⟩, -, h⟩ := bind_eq_ok.mp h
  dsimp only at h
  split at h
  · obtain ⟨⟨item, behind⟩, hitem, h⟩ := bind_eq_ok.mp h
    obtain ⟨grown, hgrown, h⟩ := bind_eq_ok.mp h
    have hdistinct : AreDistinct grown :=
      areDistinct_assign (ih.value _ _ _ _ hitem) hentries (fits_eq_ok_iff.mp hgrown)
    split at h
    · cases h
      exact hdistinct
    · exact ih.entries _ _ _ _ _ hdistinct h
    · cases h
  · cases h

end Step

theorem readsDistinct (bound : Nat) : ReadsDistinct bound := by
  induction bound with
  | zero =>
    constructor
    · intro room cs item rest h
      unfold Toml.value at h
      cases h
    · intro room cs items rest h
      unfold listItems at h
      cases h
    · intro room cs entries entries' rest _ h
      unfold tableItems at h
      cases h
  | succ bound ih =>
    exact ⟨fun _ _ _ _ => ih.value_succ, fun _ _ _ _ => ih.items_succ,
      fun _ _ _ _ _ => ih.entries_succ⟩

/-! ### Statements -/

section Statements

variable {document document' : Document}

theorem entries_of_headed {change : Option Entries}
    (h : headed document path change = .ok document') : change = some document'.entries := by
  obtain ⟨entries, hentries, h⟩ := bind_eq_ok.mp h
  cases h
  exact fits_eq_ok_iff.mp hentries

theorem areDistinct_statement {room : Nat} (hdocument : AreDistinct document.entries)
    (h : statement room document cs = .ok (document', rest)) : AreDistinct document'.entries := by
  unfold statement at h
  split at h
  · obtain ⟨⟨path, behind⟩, -, h⟩ := bind_eq_ok.mp h
    obtain ⟨headed, hheaded, h⟩ := bind_eq_ok.mp h
    cases h
    exact areDistinct_appendTable hdocument (entries_of_headed hheaded)
  · obtain ⟨⟨path, behind⟩, -, h⟩ := bind_eq_ok.mp h
    obtain ⟨headed, hheaded, h⟩ := bind_eq_ok.mp h
    cases h
    exact areDistinct_openTable hdocument (entries_of_headed hheaded)
  · obtain ⟨⟨path, behind⟩, -, h⟩ := bind_eq_ok.mp h
    dsimp only at h
    split at h
    · obtain ⟨⟨item, behind⟩, hitem, h⟩ := bind_eq_ok.mp h
      obtain ⟨entries, hentries, h⟩ := bind_eq_ok.mp h
      cases h
      -- keys change the table that the last header names
      refine areDistinct_within (fun inner inner' => ?_) hdocument (fits_eq_ok_iff.mp hentries)
      exact areDistinct_assign ((readsDistinct _).value _ _ _ _ hitem)
    · cases h

theorem areDistinct_statements {bound room : Nat} (hdocument : AreDistinct document.entries)
    (h : statements bound room document cs = .ok document') : AreDistinct document'.entries := by
  induction bound generalizing document cs with
  | zero =>
    unfold statements at h
    cases h
  | succ bound ih =>
    unfold statements at h
    split at h
    · cases h
      exact hdocument
    · exact ih hdocument h
    · obtain ⟨behind, -, h⟩ := bind_eq_ok.mp h
      exact ih hdocument h
    · obtain ⟨⟨next, behind⟩, hnext, h⟩ := bind_eq_ok.mp h
      obtain ⟨behind', -, h⟩ := bind_eq_ok.mp h
      exact ih (areDistinct_statement hdocument hnext) h

end Statements

/-- **Every table of a configuration that is read has distinct names.** -/
theorem isDistinct_of_read_eq_ok {room : Nat} {text : String} {entries : List (String × Value)}
    (h : read room text = .ok entries) : (Value.table entries).IsDistinct := by
  obtain ⟨document, hdocument, rfl⟩ := map_eq_ok.mp h
  exact isDistinct_entryValues_iff.mpr (areDistinct_statements areDistinct_nil hdocument)

end Toml

end Calculator
