import Calculator.Decimal.Reading
import Calculator.Value

/-!
# Faults

A fault is a failure that is not about an expression: a value that is no number, a token list that
cannot be evaluated at all, or whatever a caller's resolver fails with.  Every fault has a kind,
which decides what becomes of it while a variable is resolved, and a message.
-/

namespace Calculator

namespace Fault

/-- The kinds of faults. -/
inductive Kind where
  /-- A name or key that is not there. -/
  | missingKey
  /-- A position that is not there. -/
  | badIndex
  /-- Any other failure to look something up. -/
  | failedLookup
  /-- A value of the wrong type. -/
  | badType
  /-- A value of the right type that is not acceptable. -/
  | badValue
  /-- Bytes that are no text. -/
  | badBytes
  /-- A number that is too large for its type. -/
  | overflow
  /-- What the system refuses to do. -/
  | refused
  /-- Any failure without a kind of its own. -/
  | runtime
  /-- Calls nested too deeply. -/
  | recursion
  /-- Input that has come to its end. -/
  | endOfInput
deriving Repr, DecidableEq

/-- Whether a fault of this kind, met while a variable is resolved, says that the variable cannot
be resolved: failed look-ups and unacceptable values do. -/
def Kind.isAboutValue : Kind → Bool
  | missingKey | badIndex | failedLookup | badType | badValue | badBytes => true
  | overflow | refused | runtime | recursion | endOfInput => false

end Fault

/-- A failure that is not about an expression. -/
inductive Fault where
  /-- The text is no written number. -/
  | notANumber (text : String)
  /-- A value of the named type cannot stand for a number. -/
  | notNumeric (typeName : String)
  /-- The whole number is beyond the largest float. -/
  | tooLarge
  /-- The whole number has more digits than are read. -/
  | tooManyDigits (count : Nat)
  /-- The whole number has more digits than are shown. -/
  | unshowable
  /-- Values are nested more deeply than they are read or shown. -/
  | tooNested
  /-- An infinite angle has no sine, cosine or tangent. -/
  | infiniteAngle
  /-- There is nothing to ask for the values of variables. -/
  | noResolver
  /-- The tokens do not end with the end marker. -/
  | unterminated
  /-- There is no token at the cursor. -/
  | noToken
  /-- The bytes are no text. -/
  | undecodable
  /-- A fault that the surroundings report, with its message. -/
  | raised (kind : Fault.Kind) (message : String)
deriving Repr, DecidableEq

namespace Fault

/-- The kind of a fault. -/
def kind : Fault → Kind
  | notANumber _ | tooManyDigits _ | unshowable | infiniteAngle | unterminated => .badValue
  | notNumeric _ | noResolver => .badType
  | tooLarge => .overflow
  | noToken => .badIndex
  | undecodable => .badBytes
  | tooNested => .recursion
  | raised kind _ => kind

/-- The message of a fault. -/
def message : Fault → String
  | notANumber text => "could not convert string to float: " ++ Text.quoted text
  | notNumeric typeName =>
    "float() argument must be a string or a real number, not '" ++ typeName ++ "'"
  | tooLarge => "int too large to convert to float"
  | tooManyDigits count =>
    "Exceeds the limit (4300 digits) for integer string conversion: value has " ++
      toString count ++ " digits; use sys.set_int_max_str_digits() to increase the limit"
  | unshowable =>
    "Exceeds the limit (4300 digits) for integer string conversion; " ++
      "use sys.set_int_max_str_digits() to increase the limit"
  | tooNested => "maximum recursion depth exceeded"
  | infiniteAngle => "math domain error"
  | noResolver => "evaluate() requires a variable resolver"
  | unterminated => "Token sequence must end with an EOF token"
  | noToken => "list index out of range"
  | undecodable => ""
  | raised _ message => message

/-- The fault of the given kind that carries the given values: one value is its message, shown if
the value is a missing key; several values are shown as a sequence. -/
def ofValues (kind : Kind) : List Value → Fault
  | [] => raised kind ""
  | [.text s] => raised kind (if kind = .missingKey then Text.quoted s else s)
  | [value] => raised kind value.render
  | values => raised kind ("(" ++ ", ".intercalate (values.map Value.render) ++ ")")

end Fault

/-! ### Values as texts -/

namespace Value

mutual

/-- What keeps a value from being shown, if anything does: the first whole number with too many
digits, or the first value with more than `room` values around it and itself. -/
def hindrance? : Nat → Value → Option Fault
  | 0, _ => some .tooNested
  | _ + 1, int n => if n.natAbs < Nat.pow 10 mostDigits then none else some .unshowable
  | room + 1, list items => itemsHindrance? room items
  | room + 1, table entries => entriesHindrance? room entries
  | _ + 1, null | _ + 1, bool _ | _ + 1, float _ | _ + 1, text _ | _ + 1, date _ | _ + 1, time _
  | _ + 1, moment .. => none

/-- What keeps the items of a list from being shown. -/
def itemsHindrance? (room : Nat) : List Value → Option Fault
  | [] => none
  | item :: items => (item.hindrance? room).or (itemsHindrance? room items)

/-- What keeps the values of the entries of a table from being shown. -/
def entriesHindrance? (room : Nat) : List (String × Value) → Option Fault
  | [] => none
  | (_, value) :: entries => (value.hindrance? room).or (entriesHindrance? room entries)

end

end Value

/-! ### Values as numbers -/

/-- The float nearest to a whole number, unless that is infinite. -/
def intToFloat (n : Int) : Except Fault Float :=
  if Decimal.nearestBits n.natAbs 1 = Decimal.infinityBits then .error .tooLarge
  else .ok (Decimal.nearest (n < 0) n.natAbs 1)

/-- The float that a text stands for. -/
def textToFloat (text : String) : Except Fault Float :=
  match Decimal.float? text with
  | some x => .ok x
  | none => .error (.notANumber text)

/-- The number that a value stands for. -/
def Value.toFloat : Value → Except Fault Float
  | .float x => .ok x
  | .bool b => .ok (if b then 1.0 else 0.0)
  | .int n => intToFloat n
  | .text s => textToFloat s
  | value => .error (.notNumeric value.typeName)

end Calculator
