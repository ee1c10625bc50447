/-!
# The parts of a configuration text

A configuration text consists of statements on lines of their own.  The functions that take a part
off the front of a text give what they read and the text behind it.
-/

namespace Calculator.Toml

/-- Why a configuration text cannot be read. -/
inductive Flaw where
  /-- The text breaks the rules of the format. -/
  | malformed
  /-- A whole number has more digits than are read. -/
  | tooManyDigits (count : Nat)
  /-- Values are nested more deeply than they are read. -/
  | tooNested
deriving Repr, DecidableEq

/-- What is read off the front of a text, and the text behind it. -/
abbrev Read (α : Type) := Except Flaw (α × List Char)

/-- Whether a character is a blank within a line. -/
def isGap (c : Char) : Bool :=
  c == ' ' || c == '\t'

/-- Whether a character is a control other than the tab. -/
def isControl (c : Char) : Bool :=
  (c.toNat < 0x20 && c != '\t') || c.toNat == 0x7f

/-- The text behind the blanks at its front. -/
def skipGaps (cs : List Char) : List Char :=
  cs.dropWhile isGap

/-- The text behind the blanks, line ends and comments at its front.  The flag says whether a
comment has begun. -/
def skipSpace (inComment : Bool) : List Char → Except Flaw (List Char)
  | [] => .ok []
  | c :: cs =>
    if c = '\n' then skipSpace false cs
    else if inComment then
      if isControl c then .error .malformed else skipSpace true cs
    else if isGap c then skipSpace false cs
    else if c = '#' then skipSpace true cs
    else .ok (c :: cs)

/-- The text behind the rest of a line, which holds nothing but blanks and perhaps a comment. -/
def endLine (cs : List Char) : Except Flaw (List Char) :=
  match skipGaps cs with
  | [] => .ok []
  | '\n' :: rest => .ok rest
  | '#' :: rest =>
    if (rest.takeWhile (· != '\n')).any isControl then .error .malformed
    else .ok ((rest.dropWhile (· != '\n')).drop 1)
  | _ => .error .malformed

end Calculator.Toml
