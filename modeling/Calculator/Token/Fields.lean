import Calculator.Decimal.Whole
import Calculator.Token
import Calculator.Value

/-!
# Tokens from loose fields

A token can be made from values of any type.  Each field is checked on its own, and all that is
wrong with the fields is reported; whether the spelling fits the kind is checked only when the
fields are good (`Token.ofFields`).
-/

namespace Calculator.Token

/-- The values given for the fields of a token. -/
structure Fields where
  kind : Option Value := none
  text : Option Value := none
  pos : Option Value := none

/-- What may be wrong with a field, or with a token as a whole. -/
inductive Flaw where
  | missing
  | unknownKind
  | notText
  | notWhole
  | unreadable
  | fractional
  | notFinite
  | unbounded
  | negative
  | endWithText
  | withoutText (kind : Kind)
  | frozen
deriving Repr, DecidableEq

/-- The code of a flaw. -/
def Flaw.code : Flaw → String
  | missing => "missing"
  | unknownKind => "enum"
  | notText => "string_type"
  | notWhole => "int_type"
  | unreadable => "int_parsing"
  | fractional => "int_from_float"
  | notFinite => "finite_number"
  | unbounded => "int_parsing_size"
  | negative => "greater_than_equal"
  | endWithText | withoutText _ => "value_error"
  | frozen => "frozen_instance"

/-- The wording of a flaw. -/
def Flaw.message : Flaw → String
  | missing => "Field required"
  | unknownKind =>
    "Input should be 'number', 'variable', 'function', 'operator', 'lparen', 'rparen' or 'eof'"
  | notText => "Input should be a valid string"
  | notWhole => "Input should be a valid integer"
  | unreadable => "Input should be a valid integer, unable to parse string as an integer"
  | fractional => "Input should be a valid integer, got a number with a fractional part"
  | notFinite => "Input should be a finite number"
  | unbounded => "Unable to parse input string as an integer, exceeded maximum size"
  | negative => "Input should be greater than or equal to 0"
  | endWithText => "Value error, EOF token must have empty text"
  | withoutText kind => "Value error, " ++ kind.name ++ " token must have non-empty text"
  | frozen => "Instance is frozen"

/-- A flaw and the field it is in, if it is not in the token as a whole. -/
structure Issue where
  field : Option String
  flaw : Flaw
deriving Repr, DecidableEq

/-! ### The fields -/

/-- The kind that a value names. -/
def kindOf : Option Value → Except Flaw Kind
  | none => .error .missing
  | some (.text name) => (Kind.ofName? name).elim (.error .unknownKind) .ok
  | some _ => .error .unknownKind

/-- The spelling that a value is. -/
def textOf : Option Value → Except Flaw String
  | none => .error .missing
  | some (.text s) => .ok s
  | some _ => .error .notText

/-- The whole number that a text stands for. -/
def wholeText (text : String) : Except Flaw Int :=
  (Decimal.whole text).mapError fun
    | .malformed => .unreadable
    | .tooLong => .unbounded

/-- The whole number that a float is. -/
def wholeFloat (x : Float) : Except Flaw Int :=
  let value := Decimal.Dyadic.ofBits x.toBits
  let scale := Nat.pow 2 (-value.exponent).toNat
  if x.isNaN || x.isInf then .error .notFinite
  else if value.mantissa % scale ≠ 0 then .error .fractional
  else
    let n := value.mantissa * Nat.pow 2 value.exponent.toNat / scale
    if n < Nat.pow 2 63 then .ok (if x < 0 then -(n : Int) else n) else .error .unbounded

/-- The whole number that a value is. -/
def wholeOf : Value → Except Flaw Int
  | .int n => .ok n
  | .bool b => .ok (if b then 1 else 0)
  | .float x => wholeFloat x
  | .text s => wholeText s
  | _ => .error .notWhole

/-- The position that a value is; without a value it is zero. -/
def posOf : Option Value → Except Flaw Nat
  | none => .ok 0
  | some value => do
    let n ← wholeOf value
    if n < 0 then .error .negative else .ok n.toNat

/-! ### The token -/

/-- The token with the given fields, if the spelling fits the kind. -/
def make (kind : Kind) (text : String) (pos : Nat) : Except Flaw Token :=
  if h : text = "" ↔ kind = .eof then .ok ⟨kind, text, pos, h⟩
  else .error (if kind = .eof then .endWithText else .withoutText kind)

/-- The issue of a check that failed. -/
def issueIn {α : Type} (field : String) : Except Flaw α → List Issue
  | .ok _ => []
  | .error flaw => [⟨some field, flaw⟩]

/-- The token with the given values as its fields, or all that is wrong with them. -/
def ofFields (fields : Fields) : Except (List Issue) Token :=
  match kindOf fields.kind, textOf fields.text, posOf fields.pos with
  | .ok kind, .ok text, .ok pos => (make kind text pos).mapError fun flaw => [⟨none, flaw⟩]
  | kind, text, pos =>
    .error (issueIn "kind" kind ++ issueIn "text" text ++ issueIn "pos" pos)

/-- Tokens cannot be changed: what is wrong with setting a field. -/
def setField (field : String) : List Issue :=
  [⟨some field, .frozen⟩]

end Calculator.Token
