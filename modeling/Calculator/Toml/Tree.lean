import Calculator.Value

/-!
# Growing a tree of tables

The statements of a configuration text grow a tree of tables.  A table may be opened once by a
header, or grow in passing, as part of a longer header or of a key with several parts; what a key
has grown can be extended by other keys of the same section only.  Each element of a list of tables
is a tree that is closed when the next element begins.
-/

namespace Calculator.Toml

/-- How a table came to be. -/
inductive Origin where
  /-- In passing, by a longer header. -/
  | passing
  /-- By a header of its own. -/
  | header
  /-- By a key with several parts in the section with the given number. -/
  | keyed (part : Nat)
deriving Repr, DecidableEq

/-- What a key leads to. -/
inductive Node where
  /-- A value that does not grow. -/
  | leaf (value : Value)
  | table (origin : Origin) (entries : List (String × Node))
  /-- A list of tables: the closed ones, latest first, and the entries of the last one. -/
  | tables (closed : List Value) (entries : List (String × Node))

/-- The entries of a table in their order. -/
abbrev Entries := List (String × Node)

mutual

/-- The value that a node has grown to. -/
def Node.value : Node → Value
  | .leaf value => value
  | .table _ entries => .table (entryValues entries)
  | .tables closed entries => .list (closed.reverse ++ [.table (entryValues entries)])

/-- The values that entries have grown to. -/
def entryValues : Entries → List (String × Value)
  | [] => []
  | (name, node) :: entries => (name, node.value) :: entryValues entries

end

/-- Changes what a name leads to, or adds the name at the end; `f` gets what the name leads to so
far and refuses by giving nothing. -/
def alter (name : String) (f : Option Node → Option Node) : Entries → Option Entries
  | [] => (f none).map fun node => [(name, node)]
  | (n, node) :: entries =>
    if n = name then (f (some node)).map fun node => (n, node) :: entries
    else (alter name f entries).map ((n, node) :: ·)

/-- Changes the entries of the table that a header names, all tables on the way included. -/
def within (f : Entries → Option Entries) : List String → Entries → Option Entries
  | [], entries => f entries
  | name :: path, entries =>
    alter name (fun
      | none => (within f path []).map (.table .passing)
      | some (.table origin entries) => (within f path entries).map (.table origin)
      | some (.tables closed entries) => (within f path entries).map (.tables closed)
      | some (.leaf _) => none) entries

/-- Gives a new key of one or several parts a value, in the section with the given number. -/
def assign (part : Nat) (value : Value) : List String → Entries → Option Entries
  | [], _ => none
  | [name], entries =>
    alter name (fun
      | none => some (.leaf value)
      | some _ => none) entries
  | name :: path, entries =>
    alter name (fun
      | none => (assign part value path []).map (.table (.keyed part))
      | some (.table origin entries) =>
        if origin = .passing ∨ origin = .keyed part then
          (assign part value path entries).map (.table (.keyed part))
        else none
      | some _ => none) entries

/-- Opens the table that a header names. -/
def openTable (path : List String) (entries : Entries) : Option Entries :=
  match path.reverse with
  | [] => none
  | name :: outer =>
    within (alter name fun
      | none => some (.table .header [])
      | some (.table .passing entries) => some (.table .header entries)
      | some _ => none) outer.reverse entries

/-- Begins another element of the list of tables that a header names. -/
def appendTable (path : List String) (entries : Entries) : Option Entries :=
  match path.reverse with
  | [] => none
  | name :: outer =>
    within (alter name fun
      | none => some (.tables [] [])
      | some (.tables closed entries) =>
        some (.tables (.table (entryValues entries) :: closed) [])
      | some _ => none) outer.reverse entries

end Calculator.Toml
