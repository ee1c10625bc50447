import Calculator.Error
import Calculator.Text.Blank
import Calculator.Text.Digit
import Calculator.Text.Letter
import Calculator.Token

/-!
# From text to tokens

Blanks separate tokens.  A number is a longest run of digits and points, whether or not it can be
read as a number; a name is a longest run of letters, and a function if it is the name of a
function; every other token is a single character.  `Token.ofText` gives the tokens of a text
with the end behind them, or an error about the first character that belongs to none of these.
-/

namespace Calculator.Token

open Calculator.Text

/-- Whether a character belongs to a number. -/
def inNumber (c : Char) : Bool :=
  isDigit c || c == '.'

/-- The kind of a token that is a single character. -/
def markKind? (c : Char) : Option Kind :=
  if c = '+' ∨ c = '-' ∨ c = '*' ∨ c = '/' then some .operator
  else if c = '(' then some .lparen
  else if c = ')' then some .rparen
  else none

/-- The words that are functions. -/
def functionNames : List String :=
  ["sin", "cos", "tan"]

/-- The kind of a word: a function or a variable. -/
def wordKind (text : String) : Kind :=
  if text ∈ functionNames then .function else .variable

theorem wordKind_ne_eof (text : String) : wordKind text ≠ .eof := by
  unfold wordKind
  split <;> decide

theorem markKind?_ne_eof {c : Char} {kind : Kind} (h : markKind? c = some kind) :
    kind ≠ .eof := by
  unfold markKind? at h
  rintro rfl
  split at h
  · simp at h
  · split at h
    · simp at h
    · split at h <;> simp at h

/-- What a text starts with. -/
inductive Lead where
  /-- A blank, which makes no token. -/
  | blank
  /-- A token of a kind that is not the end, and the length of its spelling beyond the first
  character. -/
  | token (kind : Kind) (extra : Nat) (h : kind ≠ .eof)
  /-- A character that starts no token. -/
  | stray

/-- What a text that goes on with `cs` after its first character `c` starts with. -/
def lead (c : Char) (cs : List Char) : Lead :=
  if isBlank c then .blank
  else if inNumber c then .token .number (cs.takeWhile inNumber).length (by decide)
  else
    match h : markKind? c with
    | some kind => .token kind 0 (markKind?_ne_eof h)
    | none =>
      if isLetter c then
        let rest := cs.takeWhile isLetter
        .token (wordKind (String.ofList (c :: rest))) rest.length (wordKind_ne_eof _)
      else .stray

/-- The tokens of a text that starts at a position, behind those found before it, which are kept
latest first. -/
def scan (found : List Token) (pos : Nat) : List Char → Except Error (List Token)
  | [] => .ok (atEnd pos :: found).reverse
  | c :: cs =>
    match lead c cs with
    | .blank => scan found (pos + 1) cs
    | .token kind extra h =>
      scan (ofChars kind c (cs.take extra) pos h :: found) (pos + 1 + extra) (cs.drop extra)
    | .stray => .error ⟨.unexpectedCharacter c.toString, some pos, none⟩
termination_by cs => cs.length
decreasing_by all_goals (simp only [List.length_drop, List.length_cons]; omega)

/-- The tokens of an expression, the end included. -/
def ofText (source : String) : Except Error (List Token) :=
  scan [] 0 source.toList

end Calculator.Token
