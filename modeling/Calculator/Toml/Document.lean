import Calculator.Toml.Quotation
import Calculator.Toml.Scalar
import Calculator.Toml.Tree

/-!
# Reading a configuration text

A configuration text is a sequence of statements: keys with their values, and headers that say to
which table the keys behind them belong.  `Toml.read` gives the entries of the whole text in the
order in which they were first named.
-/

namespace Calculator.Toml

/-! ### Values -/

/-- The truth value at the front, if there is one. -/
def truth? : List Char → Option (Value × List Char)
  | 't' :: 'r' :: 'u' :: 'e' :: rest => some (.bool true, rest)
  | 'f' :: 'a' :: 'l' :: 's' :: 'e' :: rest => some (.bool false, rest)
  | _ => none

/-- What is read if it fits where it stands. -/
def fits {α : Type} (x : Option α) : Except Flaw α :=
  match x with
  | some x => .ok x
  | none => .error .malformed

mutual

/-- The value at the front, with the room that is left for values within it, of which a list takes
two parts and a table on one line three.  A value takes at most as many steps as the text has
characters, which `bound` counts. -/
def value (bound room : Nat) (cs : List Char) : Except Flaw (Value × List Char) :=
  match bound with
  | 0 => .error .malformed
  | bound + 1 =>
    match quotation? cs, truth? cs, cs with
    | some read, _, _ => read.map fun (text, rest) => (.text text, rest)
    | none, some read, _ => .ok read
    | none, none, '[' :: rest =>
      if room < 2 then .error .tooNested
      else do
        let (items, rest) ← listItems bound (room - 2) (← skipSpace false rest)
        return (.list items, rest)
    | none, none, '\x7b' :: rest =>
      if room < 3 then .error .tooNested
      else
        match skipGaps rest with
        | '\x7d' :: rest => .ok (.table [], rest)
        | rest => do
          let (entries, rest) ← tableItems bound (room - 3) [] rest
          return (.table (entryValues entries), rest)
    | none, none, cs => scalar cs

/-- The items of a list up to the bracket that closes it. -/
def listItems (bound room : Nat) (cs : List Char) : Except Flaw (List Value × List Char) :=
  match bound, cs with
  | 0, _ => .error .malformed
  | _, ']' :: rest => .ok ([], rest)
  | bound + 1, cs => do
    let (item, rest) ← value bound room cs
    match ← skipSpace false rest with
    | ']' :: rest => return ([item], rest)
    | ',' :: rest =>
      let (items, rest) ← listItems bound room (← skipSpace false rest)
      return (item :: items, rest)
    | _ => .error .malformed

/-- The entries of a table on one line up to the brace that closes it, behind those read so far. -/
def tableItems (bound room : Nat) (entries : Entries) (cs : List Char) :
    Except Flaw (Entries × List Char) :=
  match bound with
  | 0 => .error .malformed
  | bound + 1 => do
    let (path, rest) ← key cs
    match rest with
    | '=' :: rest =>
      let (item, rest) ← value bound room (skipGaps rest)
      let entries ← fits (assign 0 item path entries)
      match skipGaps rest with
      | '\x7d' :: rest => return (entries, rest)
      | ',' :: rest => tableItems bound room entries (skipGaps rest)
      | _ => .error .malformed
    | _ => .error .malformed

end

/-! ### Statements -/

/-- The tree that has grown so far, the table to which keys belong, and the number of headers so
far. -/
structure Document where
  entries : Entries := []
  header : List String := []
  headers : Nat := 0

/-- The header at the front, behind its brackets; `closing` is the text of the closing ones. -/
def headerKey (closing : List Char) (cs : List Char) :
    Except Flaw (List String × List Char) := do
  let (path, rest) ← key (skipGaps cs)
  if closing.isPrefixOf rest then return (path, rest.drop closing.length) else .error .malformed

/-- The document behind a header, and the text behind it. -/
def headed (document : Document) (path : List String) (entries : Option Entries) :
    Except Flaw Document := do
  return { entries := ← fits entries, header := path, headers := document.headers + 1 }

/-- The statement at the front, which is not blank, with the room for values within each other. -/
def statement (room : Nat) (document : Document) (cs : List Char) :
    Except Flaw (Document × List Char) :=
  match cs with
  | '[' :: '[' :: rest => do
    let (path, rest) ← headerKey [']', ']'] rest
    return (← headed document path (appendTable path document.entries), rest)
  | '[' :: rest => do
    let (path, rest) ← headerKey [']'] rest
    return (← headed document path (openTable path document.entries), rest)
  | cs => do
    let (path, rest) ← key cs
    match rest with
    | '=' :: rest =>
      let (item, rest) ← value (rest.length + 1) room (skipGaps rest)
      let entries ← fits (within (assign document.headers item path) document.header
        document.entries)
      return ({ document with entries }, rest)
    | _ => .error .malformed

/-- The document behind all statements of a text, of which there are at most as many as the text has
characters, which `bound` counts. -/
def statements (bound room : Nat) (document : Document) (cs : List Char) : Except Flaw Document :=
  match bound with
  | 0 => .error .malformed
  | bound + 1 =>
    match skipGaps cs with
    | [] => .ok document
    | '\n' :: rest => statements bound room document rest
    | '#' :: rest => do statements bound room document (← endLine ('#' :: rest))
    | cs => do
      let (document, rest) ← statement room document cs
      statements bound room document (← endLine rest)

/-- The entries of a configuration text, with the room for values within each other. -/
def read (room : Nat) (text : String) : Except Flaw (List (String × Value)) :=
  let cs := text.toList
  (statements (cs.length + 1) room {} cs).map fun document => entryValues document.entries

end Calculator.Toml
