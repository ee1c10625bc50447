import Calculator.Text.Digit
import Calculator.Toml.Basic

/-!
# Quoted texts of a configuration

Texts stand between double quotes, with escapes, or between single quotes, without; three quotes of
either kind enclose a text of several lines.
-/

namespace Calculator.Toml

/-- The character with the code point that the first `width` characters state. -/
def codePoint? (width : Nat) (cs : List Char) : Option Char := do
  let digits := cs.take width
  if digits.length ≠ width then none
  else
    let code ← Text.hexValue? digits
    if code.isValidChar then some (Char.ofNat code) else none

/-- The character that stands for a backslash and the text behind it, and how many characters of
that text belong to the escape. -/
def escape? : List Char → Option (Char × Nat)
  | [] => none
  | c :: cs =>
    match c with
    | 'b' => some ('\x08', 1)
    | 't' => some ('\t', 1)
    | 'n' => some ('\n', 1)
    | 'f' => some ('\x0c', 1)
    | 'r' => some ('\r', 1)
    | '"' => some ('"', 1)
    | '\\' => some ('\\', 1)
    | 'u' => (codePoint? 4 cs).map (·, 5)
    | 'U' => (codePoint? 8 cs).map (·, 9)
    | _ => none

/-- A text up to the double quote that closes it on the same line. -/
def lineText (cs : List Char) : Read (List Char) :=
  match cs with
  | [] => .error .malformed
  | '"' :: rest => .ok ([], rest)
  | '\\' :: rest =>
    match escape? rest with
    | none => .error .malformed
    | some (c, length) => (lineText (rest.drop length)).map fun (text, rest) => (c :: text, rest)
  | c :: rest =>
    if isControl c then .error .malformed
    else (lineText rest).map fun (text, rest) => (c :: text, rest)
termination_by cs.length
decreasing_by all_goals (simp only [List.length_drop, List.length_cons]; omega)

/-- The text up to three quotes is closed by the last three of at most five, so up to two more
belong to it. -/
def extraQuotes (quote : Char) (cs : List Char) : List Char × List Char :=
  let extra := (cs.take 2).takeWhile (· == quote)
  (extra, cs.drop extra.length)

/-- The text behind a backslash at the end of a line: the line end and all blanks and line ends
that follow are left out. -/
def joinLines? (cs : List Char) : Option (List Char) :=
  match cs with
  | '\n' :: rest => some (rest.dropWhile fun c => isGap c || c == '\n')
  | c :: rest =>
    if isGap c then
      match skipGaps rest with
      | [] => some []
      | '\n' :: rest => some (rest.dropWhile fun c => isGap c || c == '\n')
      | _ => none
    else none
  | [] => none

/-- Leaving out blanks does not make a text longer. -/
theorem length_dropWhile_le (p : Char → Bool) (cs : List Char) :
    (cs.dropWhile p).length ≤ cs.length :=
  (List.dropWhile_suffix p).length_le

theorem length_joinLines?_lt {cs rest : List Char} (h : joinLines? cs = some rest) :
    rest.length ≤ cs.length := by
  unfold joinLines? at h
  split at h
  · cases h
    exact Nat.le_succ_of_le (length_dropWhile_le _ _)
  · next c cs _ =>
    have gaps := length_dropWhile_le isGap cs
    split at h
    · split at h
      · cases h
        simp
      · next tail eq =>
        cases h
        have := length_dropWhile_le (fun c => isGap c || c == '\n') tail
        simp only [skipGaps] at eq
        rw [eq] at gaps
        simp at gaps ⊢
        omega
      · simp at h
    · simp at h
  · simp at h

/-- A text up to the three double quotes that close it. -/
def blockText (cs : List Char) : Read (List Char) :=
  match cs with
  | [] => .error .malformed
  | '"' :: '"' :: '"' :: rest => .ok (extraQuotes '"' rest)
  | '\\' :: rest =>
    match _h : joinLines? rest with
    | some rest' => blockText rest'
    | none =>
      match escape? rest with
      | none => .error .malformed
      | some (c, length) =>
        (blockText (rest.drop length)).map fun (text, rest) => (c :: text, rest)
  | c :: rest =>
    if isControl c && c != '\n' then .error .malformed
    else (blockText rest).map fun (text, rest) => (c :: text, rest)
termination_by cs.length
decreasing_by
  · have := length_joinLines?_lt _h
    simp
    omega
  all_goals (simp only [List.length_drop, List.length_cons]; omega)

/-- A text up to the single quote that closes it on the same line. -/
def rawLineText (cs : List Char) : Read (List Char) :=
  let text := cs.takeWhile (· != '\'')
  match cs.dropWhile (· != '\'') with
  | [] => .error .malformed
  | _ :: rest => if text.any isControl then .error .malformed else .ok (text, rest)

/-- A text up to the three single quotes that close it. -/
def rawBlockText : List Char → Read (List Char)
  | [] => .error .malformed
  | '\'' :: '\'' :: '\'' :: rest => .ok (extraQuotes '\'' rest)
  | c :: rest =>
    if isControl c && c != '\n' then .error .malformed
    else (rawBlockText rest).map fun (text, rest) => (c :: text, rest)

/-- The text behind the line end at its front, if there is one. -/
def skipLineEnd : List Char → List Char
  | '\n' :: rest => rest
  | cs => cs

/-- The quoted text at the front, if there is a quote. -/
def quotation? (cs : List Char) : Option (Read String) :=
  match cs with
  | '"' :: '"' :: '"' :: rest => some (word (blockText (skipLineEnd rest)))
  | '"' :: rest => some (word (lineText rest))
  | '\'' :: '\'' :: '\'' :: rest => some (word (rawBlockText (skipLineEnd rest)))
  | '\'' :: rest => some (word (rawLineText rest))
  | _ => none
where
  /-- What was read as a string. -/
  word (text : Read (List Char)) : Read String :=
    text.map fun (text, rest) => (String.ofList text, rest)

/-! ### Keys -/

/-- Whether a character may stand in a key without quotes. -/
def inBareKey (c : Char) : Bool :=
  c.isAlphanum || c == '-' || c == '_'

/-- One part of a key at the front. -/
def keyPart (cs : List Char) : Read String :=
  match cs with
  | '"' :: rest => (lineText rest).map fun (text, rest) => (String.ofList text, rest)
  | '\'' :: rest => (rawLineText rest).map fun (text, rest) => (String.ofList text, rest)
  | cs =>
    let part := cs.takeWhile inBareKey
    if part.isEmpty then .error .malformed
    else .ok (String.ofList part, cs.dropWhile inBareKey)

/-- The parts of a key at the front, which points separate, and the blanks behind them.  A key has
at most as many parts as the text has characters, which `bound` counts. -/
def keyParts (bound : Nat) (cs : List Char) : Except Flaw (List String × List Char) :=
  match bound with
  | 0 => .error .malformed
  | bound + 1 => do
    let (part, rest) ← keyPart cs
    match skipGaps rest with
    | '.' :: rest =>
      let (parts, rest) ← keyParts bound (skipGaps rest)
      return (part :: parts, rest)
    | rest => return ([part], rest)

/-- The key at the front and the blanks behind it. -/
def key (cs : List Char) : Read (List String) :=
  keyParts (cs.length + 1) cs

end Calculator.Toml
