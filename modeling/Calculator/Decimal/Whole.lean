import Calculator.Decimal.Reading

/-!
# Reading a whole number from a text

A plain whole number is a minus sign, or nothing, and then a zero or digits that do not start with
one.  A text that is not plain is made plain first: white space around it, a plus sign, zeros and
low lines at its start, a point with zeros, and single low lines are taken off.
-/

namespace Calculator.Decimal

/-- Why a text is not read as a whole number. -/
inductive WholeFlaw where
  | malformed
  | tooLong
deriving Repr, DecidableEq

/-- The most characters that a plain whole number may have, its sign included. -/
def longestWhole : Nat :=
  4300

/-- The digits of a whole number at the front: a single zero, or a run that starts with none. -/
def leadingDigits (cs : List Char) : List Char :=
  if cs.head? = some '0' then ['0'] else cs.takeWhile Char.isDigit

/-- The whole number that plain characters stand for.  Too long a number is refused whatever stands
behind it. -/
def plainWhole (cs : List Char) : Except WholeFlaw Int :=
  let negative := cs.head? = some '-'
  let body := if negative then cs.tail else cs
  let digits := leadingDigits body
  if longestWhole < cs.length - body.length + digits.length then .error .tooLong
  else if digits.isEmpty ∨ digits.length < body.length then .error .malformed
  else
    let n : Int := digitsValue digits
    .ok (if negative then -n else n)

/-! ### Making a text plain -/

/-- Whether a character is kept behind zeros that are taken off. -/
def endsZeros (c : Char) : Bool :=
  c == '-' || ('1' ≤ c && c ≤ '9')

/-- The characters behind zeros and low lines, of which `last` is the latest one.  It is kept in
front of a point and at the end. -/
def behindZeros (last : Char) : List Char → Option (List Char)
  | [] => some [last]
  | c :: cs =>
    if c = '0' ∨ c = '_' then behindZeros c cs
    else if c = '.' then some (last :: c :: cs)
    else if endsZeros c then some (c :: cs)
    else none

/-- The characters without zeros at their start and low lines behind these. -/
def withoutZeros : List Char → Option (List Char)
  | [] => none
  | c :: cs =>
    if c = '0' then behindZeros c cs else if endsZeros c then some (c :: cs) else none

/-- The characters without a point that only zeros follow, and without these. -/
def withoutFraction (cs : List Char) : List Char :=
  if ((cs.dropWhile (· != '.')).drop 1).all (· == '0') then cs.takeWhile (· != '.') else cs

/-- The characters without their low lines, if none of these stands at an end or beside another. -/
def withoutSeparators (cs : List Char) : List Char :=
  if cs.head? = some '_' ∨ cs.getLast? = some '_' ∨ ('_', '_') ∈ cs.zip cs.tail then cs
  else cs.filter (· != '_')

/-- The plain characters of a text, if it is written like a whole number.  A plus sign and a minus
sign do not go together. -/
def plain? (text : String) : Option (List Char) :=
  let trimmed := (Text.trim isMargin text).toList
  let (negative, body) := takeSign trimmed
  if trimmed.head? = some '+' ∧ body.head? = some '-' then none
  else (withoutZeros body).map fun cs =>
    let digits := withoutSeparators (withoutFraction cs)
    if negative then '-' :: digits else digits

/-- The whole number that a text stands for. -/
def whole (text : String) : Except WholeFlaw Int :=
  match plainWhole text.toList with
  | .error .malformed => (plain? text).elim (.error .malformed) plainWhole
  | result => result

end Calculator.Decimal
