import Calculator.Text.Line
import Calculator.Toml.Document
import Mathlib.Tactic.IntervalCases

/-!
# Configurations of one variable

Any text at all can be the name of a variable in a configuration: spelled out in escapes, one for
each character, it is a key between double quotes (`lineText_escapes`).  `definitionText` makes a
configuration of it that gives the variable a number, and nothing else is in it
(`read_definitionText`).
-/

namespace Calculator.Toml

open Calculator.Text

/-! ### Digits in base sixteen -/

/-- The last `width` digits of a number in base sixteen. -/
def hexDigits : Nat → Nat → List Char
  | 0, _ => []
  | width + 1, n => hexDigits width (n / 16) ++ [Nat.digitChar (n % 16)]

theorem length_hexDigits (width n : Nat) : (hexDigits width n).length = width := by
  induction width generalizing n with
  | zero => rfl
  | succ width ih => rw [hexDigits, List.length_append, ih, List.length_singleton]

theorem mem_hexDigits {width n : Nat} {c : Char} (h : c ∈ hexDigits width n) :
    ∃ digit < 16, c = Nat.digitChar digit := by
  induction width generalizing n with
  | zero => cases h
  | succ width ih =>
    rcases List.mem_append.mp h with hmem | hlast
    · exact ih hmem
    · exact ⟨n % 16, Nat.mod_lt _ (by decide), List.mem_singleton.mp hlast⟩

theorem hexValue?_append_digitChar (cs : List Char) {digit : Nat} (h : digit < 16) :
    hexValue? (cs ++ [Nat.digitChar digit]) = (hexValue? cs).map (16 * · + digit) := by
  rw [hexValue?, List.foldlM_append]
  show (hexValue? cs).bind _ = _
  cases hexValue? cs with
  | none => rfl
  | some n => interval_cases digit <;> rfl

theorem hexValue?_hexDigits {width n : Nat} (h : n < 16 ^ width) :
    hexValue? (hexDigits width n) = some n := by
  induction width generalizing n with
  | zero =>
    obtain rfl : n = 0 := by simpa using h
    rfl
  | succ width ih =>
    have hquotient : n / 16 < 16 ^ width := by
      rw [Nat.pow_succ] at h
      omega
    rw [hexDigits, hexValue?_append_digitChar _ (Nat.mod_lt _ (by decide)), ih hquotient,
      Option.map_some, Nat.div_add_mod]

/-! ### Escapes -/

/-- The escape of a character by its code point. -/
def escape (c : Char) : List Char :=
  '\\' :: 'U' :: hexDigits 8 c.toNat

theorem toNat_lt_pow (c : Char) : c.toNat < 16 ^ 8 := by
  have hvalid : c.toNat < 0x110000 := by
    rcases c.valid with h | ⟨-, h⟩
    · exact Nat.lt_trans h (by decide)
    · exact h
  exact Nat.lt_trans hvalid (by decide)

theorem codePoint?_hexDigits (c : Char) (rest : List Char) :
    codePoint? 8 (hexDigits 8 c.toNat ++ rest) = some c := by
  have htake : (hexDigits 8 c.toNat ++ rest).take 8 = hexDigits 8 c.toNat := by
    rw [List.take_append_of_le_length (length_hexDigits 8 _).ge,
      List.take_of_length_le (length_hexDigits 8 _).le]
  unfold codePoint?
  simp only [htake, length_hexDigits, hexValue?_hexDigits (toNat_lt_pow c)]
  have hvalid : c.toNat.isValidChar := c.valid
  simp [hvalid, Char.ofNat_toNat]

/-- An escape is read as its character. -/
theorem lineText_escape (c : Char) (rest : List Char) :
    lineText (escape c ++ rest) = (lineText rest).map fun (text, rest) => (c :: text, rest) := by
  have hescape : escape? ('U' :: (hexDigits 8 c.toNat ++ rest)) = some (c, 9) := by
    rw [escape?, codePoint?_hexDigits]
    rfl
  have hdrop : ('U' :: (hexDigits 8 c.toNat ++ rest)).drop 9 = rest := by
    rw [List.drop_succ_cons]
    exact List.drop_left' (length_hexDigits 8 _)
  have hcons : escape c ++ rest = '\\' :: 'U' :: (hexDigits 8 c.toNat ++ rest) := rfl
  rw [hcons, lineText, hescape]
  dsimp only
  rw [hdrop]

/-- A text that is spelled out in escapes is read as it is. -/
theorem lineText_escapes (cs rest : List Char) :
    lineText (cs.flatMap escape ++ '"' :: rest) = .ok (cs, rest) := by
  induction cs with
  | nil => rw [List.flatMap_nil, List.nil_append, lineText]
  | cons c cs ih =>
    rw [List.flatMap_cons, List.append_assoc, lineText_escape, ih]
    rfl

/-! ### The configuration of a variable -/

section Definition

variable (name : String)

/-- A configuration that gives a variable the value 1. -/
def definitionText : String :=
  "[variables]\n\"" ++ String.ofList (name.toList.flatMap escape) ++ "\" = 1\n"

/-- The header of the table of variables, with the end of its line. -/
def header : List Char :=
  ['[', 'v', 'a', 'r', 'i', 'a', 'b', 'l', 'e', 's', ']', '\n']

/-- The line behind the header. -/
def definition : List Char :=
  '"' :: (name.toList.flatMap escape ++ ['"', ' ', '=', ' ', '1', '\n'])

theorem toList_definitionText : (definitionText name).toList = header ++ definition name := by
  simp [definitionText, header, definition]

/-- The document behind the header. -/
def headedDocument (entries : Entries) : Document :=
  ⟨[("variables", .table .header entries)], ["variables"], 1⟩

theorem statements_header (bound room : Nat) (rest : List Char) :
    statements (bound + 1) room {} (header ++ rest) =
      statements bound room (headedDocument []) rest :=
  rfl

theorem key_definition : key (definition name) = .ok ([name], ['=', ' ', '1', '\n']) := by
  have hpart : keyPart (definition name) = .ok (name, [' ', '=', ' ', '1', '\n']) := by
    show (lineText _).map _ = _
    rw [lineText_escapes]
    show Except.ok (String.ofList name.toList, _) = _
    rw [String.ofList_toList]
  rw [key, keyParts, hpart]
  rfl

theorem statement_definition (room : Nat) :
    statement room (headedDocument []) (definition name) =
      .ok (headedDocument [(name, .leaf (.int 1))], ['\n']) := by
  show Except.bind (key (definition name)) _ = _
  rw [key_definition]
  rfl

/-- The variable is all that is read. -/
theorem read_definitionText (room : Nat) :
    read room (definitionText name) = .ok [("variables", .table [(name, .int 1)])] := by
  unfold read
  rw [toList_definitionText]
  -- there are more characters than statements
  show (statements (_ + 4) room {} _).map _ = _
  rw [statements_header]
  show (Except.bind (statement room _ (definition name)) _).map _ = _
  rw [statement_definition]
  rfl

/-- There are no line ends but line feeds. -/
theorem withLineFeeds_definitionText :
    withLineFeeds (definitionText name) = definitionText name := by
  have hescape : ∀ c, '\r' ∉ escape c := by
    intro c hmem
    rcases List.mem_cons.mp hmem with h | hmem
    · cases h
    rcases List.mem_cons.mp hmem with h | hmem
    · cases h
    obtain ⟨digit, hdigit, h⟩ := mem_hexDigits hmem
    interval_cases digit <;> cases h
  have hnone : '\r' ∉ (definitionText name).toList := by
    rw [toList_definitionText]
    simp [header, definition, hescape]
  rw [withLineFeeds, unifyLines_of_notMem hnone, String.ofList_toList]

theorem read_withLineFeeds_definitionText (room : Nat) :
    read room (withLineFeeds (definitionText name)) =
      .ok [("variables", .table [(name, .int 1)])] := by
  rw [withLineFeeds_definitionText, read_definitionText]

end Definition

end Calculator.Toml
