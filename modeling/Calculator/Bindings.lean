/-!
# Bindings

A table of names and their values in the order in which the names were first bound.  Binding a name
again changes its value and keeps its place (`names_insert_of_mem`); a new name goes to the end
(`names_insert_of_notMem`).  `get?_insert` says what is found after a name was bound, and
`get?_ofList` and `get?_union` what is found after many were; `names_foldl_insert` says in which
order the names are then.
-/

namespace Calculator

/-- Names with their values, each name once. -/
structure Bindings (α : Type) where
  entries : List (String × α)
  nodup : (entries.map Prod.fst).Nodup

namespace Bindings

variable {α β : Type}

/-- No bindings. -/
def empty : Bindings α :=
  ⟨[], by simp⟩

instance : EmptyCollection (Bindings α) :=
  ⟨empty⟩

instance : Inhabited (Bindings α) :=
  ⟨empty⟩

/-- The bound names in their order. -/
def names (b : Bindings α) : List String :=
  b.entries.map Prod.fst

/-- The value bound to a name. -/
def get? (b : Bindings α) (name : String) : Option α :=
  b.entries.lookup name

theorem eq_of_entries {b c : Bindings α} (h : b.entries = c.entries) : b = c := by
  cases b
  cases c
  cases h
  rfl

/-! ### Binding a name -/

/-- The entries with the value of one name replaced, or with the name at their end. -/
def put (name : String) (value : α) : List (String × α) → List (String × α)
  | [] => [(name, value)]
  | (n, v) :: rest => if n = name then (n, value) :: rest else (n, v) :: put name value rest

theorem map_fst_put (name : String) (value : α) (entries : List (String × α)) :
    (put name value entries).map Prod.fst =
      if name ∈ entries.map Prod.fst then entries.map Prod.fst
      else entries.map Prod.fst ++ [name] := by
  induction entries with
  | nil => simp [put]
  | cons entry rest ih =>
    obtain ⟨n, v⟩ := entry
    by_cases h : n = name
    · simp [put, h]
    · have h' : name ≠ n := Ne.symm h
      simp only [put, h, ↓reduceIte, List.map_cons, ih, List.mem_cons, h', false_or]
      split <;> rfl

theorem lookup_cons_eq (name n : String) (v : α) (rest : List (String × α)) :
    ((n, v) :: rest).lookup name = if name = n then some v else rest.lookup name := by
  rw [List.lookup_cons]
  split <;> simp_all

theorem put_of_notMem {name : String} {entries : List (String × α)}
    (h : name ∉ entries.map Prod.fst) (value : α) :
    put name value entries = entries ++ [(name, value)] := by
  induction entries with
  | nil => rfl
  | cons entry rest ih =>
    obtain ⟨n, v⟩ := entry
    have hne : n ≠ name := by
      rintro rfl
      exact h (List.mem_cons_self ..)
    have hrest : name ∉ rest.map Prod.fst := fun hmem => h (List.mem_cons_of_mem _ hmem)
    rw [put, if_neg hne, ih hrest, List.cons_append]

theorem lookup_put (name other : String) (value : α) (entries : List (String × α)) :
    (put name value entries).lookup other =
      if other = name then some value else entries.lookup other := by
  induction entries with
  | nil => simp [put, lookup_cons_eq]
  | cons entry rest ih =>
    obtain ⟨n, v⟩ := entry
    by_cases h : n = name
    · subst h
      simp only [put, ↓reduceIte, lookup_cons_eq]
      split <;> simp_all
    · by_cases h' : other = n
      · simp [put, h, h']
      · simp [put, h, h', lookup_cons_eq, ih]

/-- The bindings with one name bound to a value. -/
def insert (b : Bindings α) (name : String) (value : α) : Bindings α where
  entries := put name value b.entries
  nodup := by
    rw [map_fst_put]
    split
    · exact b.nodup
    · next h =>
      rw [List.nodup_append]
      refine ⟨b.nodup, by simp, ?_⟩
      rintro x hx y hy rfl
      simp at hy
      exact h (hy ▸ hx)

theorem get?_insert (b : Bindings α) (name other : String) (value : α) :
    (b.insert name value).get? other = if other = name then some value else b.get? other :=
  lookup_put name other value b.entries

theorem names_insert_of_mem {b : Bindings α} {name : String} (h : name ∈ b.names) (value : α) :
    (b.insert name value).names = b.names := by
  simp only [names, insert, map_fst_put] at h ⊢
  simp [h]

theorem names_insert_of_notMem {b : Bindings α} {name : String} (h : name ∉ b.names)
    (value : α) : (b.insert name value).names = b.names ++ [name] := by
  simp only [names, insert, map_fst_put] at h ⊢
  simp [h]

/-- Every entry is found under its name. -/
theorem get?_of_mem {b : Bindings α} {name : String} {value : α} (h : (name, value) ∈ b.entries) :
    b.get? name = some value := by
  obtain ⟨entries, hnodup⟩ := b
  unfold get?
  dsimp only at h ⊢
  induction entries with
  | nil => cases h
  | cons entry rest ih =>
    obtain ⟨n, v⟩ := entry
    obtain ⟨hn, hrest⟩ := List.nodup_cons.mp hnodup
    rw [lookup_cons_eq]
    rcases List.mem_cons.mp h with heq | hmem
    · cases heq
      exact if_pos rfl
    · -- the name stands once, so it is not that of the first entry
      have hne : name ≠ n := by
        rintro rfl
        exact hn (List.mem_map.mpr ⟨(name, value), hmem, rfl⟩)
      rw [if_neg hne]
      exact ih hrest hmem

/-- The entries are the names with what is found under them. -/
theorem map_some_entries (b : Bindings α) :
    b.entries.map some = b.names.map fun name => (b.get? name).map fun value => (name, value) := by
  unfold names
  rw [List.map_map]
  refine List.map_congr_left ?_
  rintro ⟨name, value⟩ hmem
  simp only [Function.comp_apply, get?_of_mem hmem, Option.map_some]

/-- Bindings are determined by the order of the names and by what is found under them. -/
theorem eq_of_names_of_get? {b c : Bindings α} (hnames : b.names = c.names)
    (hget : ∀ name, b.get? name = c.get? name) : b = c := by
  have hentries : b.entries.map some = c.entries.map some := by
    rw [map_some_entries, map_some_entries, hnames]
    simp only [hget]
  exact eq_of_entries ((List.map_inj_right fun _ _ => Option.some.inj).mp hentries)

/-! ### Binding many names -/

/-- The names of a list bound one after the other. -/
def ofList (entries : List (String × α)) : Bindings α :=
  entries.foldl (fun b entry => b.insert entry.1 entry.2) empty

/-- The bindings of both tables; where both bind a name, the second one decides. -/
def union (first second : Bindings α) : Bindings α :=
  second.entries.foldl (fun b entry => b.insert entry.1 entry.2) first

/-- Of several values that a name is bound to one after the other, the last one counts. -/
theorem get?_foldl_insert (entries : List (String × α)) (b : Bindings α) (name : String) :
    (entries.foldl (fun b entry => b.insert entry.1 entry.2) b).get? name =
      (entries.reverse.lookup name).or (b.get? name) := by
  induction entries generalizing b with
  | nil => rfl
  | cons entry rest ih =>
    obtain ⟨n, v⟩ := entry
    rw [List.foldl_cons, ih, get?_insert, List.reverse_cons, List.lookup_append, Option.or_assoc,
      lookup_cons_eq]
    split <;> rfl

/-- The names bound before keep their places, and behind them the new ones stand in the order in
which they occur first. -/
theorem names_foldl_insert (entries : List (String × α)) (b : Bindings α) :
    (entries.foldl (fun b entry => b.insert entry.1 entry.2) b).names =
      b.names ++ ((entries.map Prod.fst).filter fun name => !b.names.contains name).eraseDups := by
  induction entries generalizing b with
  | nil => exact (List.append_nil _).symm
  | cons entry rest ih =>
    obtain ⟨n, v⟩ := entry
    rw [List.foldl_cons, ih, List.map_cons]
    by_cases hn : n ∈ b.names
    · rw [names_insert_of_mem hn, List.filter_cons_of_neg (by simp [hn])]
    · -- from here on the name is among those bound before
      have hfilter : ((rest.map Prod.fst).filter fun name => !b.names.contains name).filter
          (fun name => !name == n) =
            (rest.map Prod.fst).filter fun name => !(b.names ++ [n]).contains name := by
        rw [List.filter_filter]
        refine List.filter_congr ?_
        intro name _
        by_cases hname : name = n <;> simp [hname]
      rw [names_insert_of_notMem hn, List.filter_cons_of_pos (by simp [hn]), List.eraseDups_cons,
        hfilter, List.append_assoc, List.singleton_append]

theorem names_ofList (entries : List (String × α)) :
    (ofList entries).names = (entries.map Prod.fst).eraseDups := by
  have hall : (entries.map Prod.fst).filter
      (fun name => !(empty : Bindings α).names.contains name) = entries.map Prod.fst :=
    List.filter_eq_self.mpr fun name _ => rfl
  unfold ofList
  rw [names_foldl_insert, hall]
  rfl

/-- Names that are not bound yet are bound in the order of their list. -/
theorem entries_foldl_insert {entries : List (String × α)} {b : Bindings α}
    (h : (b.names ++ entries.map Prod.fst).Nodup) :
    (entries.foldl (fun b entry => b.insert entry.1 entry.2) b).entries = b.entries ++ entries := by
  induction entries generalizing b with
  | nil => exact (List.append_nil _).symm
  | cons entry rest ih =>
    obtain ⟨n, v⟩ := entry
    have hn : n ∉ b.names := by
      intro hmem
      exact (List.nodup_append.mp h).2.2 n hmem n (List.mem_cons_self ..) rfl
    have hput : (b.insert n v).entries = b.entries ++ [(n, v)] := put_of_notMem hn v
    have hnames : (b.insert n v).names ++ rest.map Prod.fst =
        b.names ++ ((n, v) :: rest).map Prod.fst := by
      rw [names_insert_of_notMem hn, List.append_assoc]
      rfl
    rw [List.foldl_cons, ih (hnames ▸ h), hput, List.append_assoc, List.singleton_append]

theorem entries_ofList {entries : List (String × α)} (h : (entries.map Prod.fst).Nodup) :
    (ofList entries).entries = entries :=
  entries_foldl_insert (b := empty) h

theorem get?_ofList (entries : List (String × α)) (name : String) :
    (ofList entries).get? name = entries.reverse.lookup name := by
  unfold ofList
  rw [get?_foldl_insert]
  exact Option.or_none

/-- Where each name stands once, it does not matter from which end it is looked up. -/
theorem lookup_reverse {entries : List (String × α)} (h : (entries.map Prod.fst).Nodup)
    (name : String) : entries.reverse.lookup name = entries.lookup name := by
  induction entries with
  | nil => rfl
  | cons entry rest ih =>
    obtain ⟨n, v⟩ := entry
    obtain ⟨hn, hrest⟩ := List.nodup_cons.mp h
    rw [List.reverse_cons, List.lookup_append, ih hrest, lookup_cons_eq, lookup_cons_eq]
    by_cases hname : name = n
    · have hnone : rest.lookup n = none := by
        rw [List.lookup_eq_none_iff]
        intro entry he
        refine bne_iff_ne.mpr ?_
        rintro rfl
        exact hn (List.mem_map.mpr ⟨entry, he, rfl⟩)
      rw [hname, hnone]
      rfl
    · rw [if_neg hname, if_neg hname]
      exact Option.or_none

theorem get?_union (first second : Bindings α) (name : String) :
    (first.union second).get? name = (second.get? name).or (first.get? name) := by
  unfold union
  rw [get?_foldl_insert, lookup_reverse second.nodup]
  rfl

/-- The bindings with a function applied to the values. -/
def map (f : α → β) (b : Bindings α) : Bindings β where
  entries := b.entries.map fun entry => (entry.1, f entry.2)
  nodup := by
    simpa [Function.comp_def] using b.nodup

/-- The entries in the order of their names. -/
def sorted (b : Bindings α) : List (String × α) :=
  b.entries.mergeSort fun x y => x.1 ≤ y.1

end Bindings

end Calculator
