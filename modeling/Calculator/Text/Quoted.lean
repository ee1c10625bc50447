import Calculator.Text.Printable

/-!
# Quoted texts

A text is shown between quotes with escapes for the quote, the backslash, the line breaks, the tab
and everything that is not printable.  The quotes are single ones unless the text holds a single
quote and no double one.
-/

namespace Calculator.Text

/-- The `width` lowest hexadecimal digits of `n`, in lower case. -/
def hexDigits (width n : Nat) : List Char :=
  ((List.range width).map fun place => Nat.digitChar (n / Nat.pow 16 place % 16)).reverse

/-- The escape of a character by its code point: two, four or eight digits. -/
def escapeCode (code : Nat) : List Char :=
  if code < 0x100 then '\\' :: 'x' :: hexDigits 2 code
  else if code < 0x10000 then '\\' :: 'u' :: hexDigits 4 code
  else '\\' :: 'U' :: hexDigits 8 code

/-- One character as it stands between two quotes `mark`. -/
def escapeChar (mark c : Char) : List Char :=
  if c = mark ∨ c = '\\' then ['\\', c]
  else if c = '\n' then ['\\', 'n']
  else if c = '\r' then ['\\', 'r']
  else if c = '\t' then ['\\', 't']
  else if isPrintable c then [c]
  else escapeCode c.toNat

/-- The quote that stands around a text. -/
def quoteMark (cs : List Char) : Char :=
  if '\'' ∈ cs ∧ '"' ∉ cs then '"' else '\''

/-- The text between quotes. -/
def quoted (text : String) : String :=
  let mark := quoteMark text.toList
  String.ofList (mark :: text.toList.flatMap (escapeChar mark) ++ [mark])

end Calculator.Text
