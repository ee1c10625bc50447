import Calculator.Decimal.Nearest
import Calculator.Decimal.Shortest
import Calculator.Text.Blank
import Calculator.Text.Digit

/-!
# Reading a float from a text

The written form of a float is a sign, digits with at most one point among or around them, and an
exponent.  Digits of all scripts are accepted, a low line may stand between two digits, and
`inf`, `infinity` and `nan` are accepted in any mixture of cases.  White space around the number is
ignored.  The float read is the nearest one to the decimal written.
-/

namespace Calculator.Decimal

open Calculator.Text

/-- What a written number stands for. -/
inductive Literal where
  | finite (negative : Bool) (value : Numeral)
  | infinite (negative : Bool)
  | undefined
deriving Repr, DecidableEq

/-- White space that may surround a written number: all of it but the information separators. -/
def isMargin (c : Char) : Bool :=
  isBlank c && !(0x1c ≤ c.toNat && c.toNat ≤ 0x1f)

/-- The characters without their low lines, if each of these stands between two digits.  The flag
says whether the character before is a digit. -/
def dropSeparators (afterDigit : Bool) : List Char → Option (List Char)
  | [] => some []
  | ['_'] => none
  | '_' :: c :: cs =>
    if afterDigit && isDigit c then (dropSeparators true cs).map (c :: ·) else none
  | c :: cs => (dropSeparators (isDigit c) cs).map (c :: ·)

/-- The natural number with the given digits. -/
def digitsValue (cs : List Char) : Nat :=
  cs.foldl (fun n c => 10 * n + (digitValue? c).getD 0) 0

/-- Takes a sign off the front. -/
def takeSign : List Char → Bool × List Char
  | '-' :: cs => (true, cs)
  | '+' :: cs => (false, cs)
  | cs => (false, cs)

/-- The exponent that a text behind the digits stands for: none is zero. -/
def exponent? : List Char → Option Int
  | [] => some 0
  | c :: cs =>
    if c = 'e' ∨ c = 'E' then
      let (negative, digits) := takeSign cs
      if digits.isEmpty || !digits.all isDigit then none
      else some (if negative then -(digitsValue digits : Int) else digitsValue digits)
    else none

/-- The decimal that unsigned digits with a point and an exponent stand for. -/
def numeral? (cs : List Char) : Option Numeral :=
  let whole := cs.takeWhile isDigit
  let rest := cs.dropWhile isDigit
  let afterPoint := if rest.head? = some '.' then rest.tail else []
  let fraction := afterPoint.takeWhile isDigit
  let behind := if rest.head? = some '.' then afterPoint.dropWhile isDigit else rest
  if whole.isEmpty && fraction.isEmpty then none
  else (exponent? behind).map fun e => ⟨digitsValue (whole ++ fraction), e - fraction.length⟩

/-- What the characters of a written number stand for. -/
def literal? (cs : List Char) : Option Literal :=
  (dropSeparators false cs).bind fun plain =>
    let (negative, body) := takeSign plain
    let word := String.ofList (body.map Char.toLower)
    if word = "inf" ∨ word = "infinity" then some (.infinite negative)
    else if word = "nan" then some .undefined
    else (numeral? body).map (.finite negative)

/-- Beyond this many digits before the point every value is too large for a finite float. -/
def largestMagnitude : Int := 310

/-- With this many zeros behind the point every value is too small for a float but zero. -/
def smallestMagnitude : Int := -400

/-- A positive number has no fewer decimal digits than this, as a thousand is less than two to the
power of ten. -/
def leastDigitCount (n : Nat) : Nat :=
  3 * n.log2 / 10 + 1

/-- A number has no more decimal digits than this, as eight is less than ten. -/
def greatestDigitCount (n : Nat) : Nat :=
  n.log2 / 3 + 1

/-- The float nearest to a decimal, with the given sign. -/
def Numeral.toFloat (negative : Bool) (d : Numeral) : Float :=
  if d.digits = 0 ∨ greatestDigitCount d.digits + d.exponent < smallestMagnitude then
    nearest negative 0 1
  else if largestMagnitude < leastDigitCount d.digits + d.exponent then
    nearest negative (Nat.pow 10 310) 1
  else nearest negative (d.digits * Nat.pow 10 d.exponent.toNat) (Nat.pow 10 (-d.exponent).toNat)

/-- The float of a written number. -/
def Literal.toFloat : Literal → Float
  | .finite negative value => value.toFloat negative
  | .infinite negative => if negative then -1.0 / 0.0 else 1.0 / 0.0
  | .undefined => 0.0 / 0.0

/-- The float that a text stands for, if it is a written number. -/
def float? (text : String) : Option Float :=
  (literal? (trim isMargin text).toList).map Literal.toFloat

end Calculator.Decimal
