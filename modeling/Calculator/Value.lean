import Calculator.Decimal.Layout
import Calculator.Text.Quoted

/-!
# Values

The values that settings and variables may be given, before anything is known about their type.
`Value.render` shows a value, with texts quoted and tables in the order of their entries.
-/

namespace Calculator

/-! ### Dates and times -/

/-- A calendar date. -/
structure Date where
  year : Nat
  month : Nat
  day : Nat
deriving Repr, DecidableEq

/-- A time of day. -/
structure Time where
  hour : Nat
  minute : Nat
  second : Nat
  microsecond : Nat
deriving Repr, DecidableEq

/-- The parts with the zeros for microseconds and then for seconds left out. -/
def Time.parts (t : Time) : List Nat :=
  if t.microsecond ≠ 0 then [t.hour, t.minute, t.second, t.microsecond]
  else if t.second ≠ 0 then [t.hour, t.minute, t.second]
  else [t.hour, t.minute]

/-- Numbers between parentheses. -/
def showParts (parts : List Nat) : String :=
  ", ".intercalate (parts.map toString)

/-- A date as it is shown. -/
def Date.render (d : Date) : String :=
  "datetime.date(" ++ showParts [d.year, d.month, d.day] ++ ")"

/-- A time of day as it is shown. -/
def Time.render (t : Time) : String :=
  "datetime.time(" ++ showParts t.parts ++ ")"

/-- An offset from universal time in seconds, as it is shown: whole days are counted down, so that
the seconds are never negative. -/
def renderOffset (seconds : Int) : String :=
  if seconds = 0 then "datetime.timezone.utc"
  else
    let days := if seconds < 0 then "days=-1, " else ""
    let rest := if seconds < 0 then seconds + 86400 else seconds
    "datetime.timezone(datetime.timedelta(" ++ days ++ "seconds=" ++ toString rest ++ "))"

/-- A date with a time of day, and an offset from universal time in seconds if one is given. -/
def renderMoment (d : Date) (t : Time) (offset : Option Int) : String :=
  let zone := match offset with
    | none => ""
    | some seconds => ", tzinfo=" ++ renderOffset seconds
  "datetime.datetime(" ++ showParts ([d.year, d.month, d.day] ++ t.parts) ++ zone ++ ")"

/-! ### Values -/

/-- A value of any type. -/
inductive Value where
  | null
  | bool (b : Bool)
  | int (n : Int)
  | float (x : Float)
  | text (s : String)
  | date (d : Date)
  | time (t : Time)
  | moment (d : Date) (t : Time) (offset : Option Int)
  | list (items : List Value)
  | table (entries : List (String × Value))

instance : Inhabited Value :=
  ⟨.null⟩

/-- The most digits with which a whole number is read or shown. -/
def mostDigits : Nat :=
  4300

/-- Floats are written positionally from `0.0001` on and below `10 ^ 16`; a written exponent has at
least two digits. -/
def numberLayout : Decimal.Layout :=
  ⟨-4, 16, 2⟩

/-- The written form of a float. -/
def numberText (x : Float) : String :=
  numberLayout.float x

namespace Value

mutual

/-- A value as it is shown in messages. -/
def render : Value → String
  | null => "None"
  | bool b => if b then "True" else "False"
  | int n => toString n
  | float x => numberText x
  | text s => Text.quoted s
  | date d => d.render
  | time t => t.render
  | moment d t offset => renderMoment d t offset
  | list items => "[" ++ ", ".intercalate (renderItems items) ++ "]"
  | table entries => "\x7b" ++ ", ".intercalate (renderEntries entries) ++ "\x7d"

/-- The items of a list as they are shown. -/
def renderItems : List Value → List String
  | [] => []
  | item :: items => item.render :: renderItems items

/-- The entries of a table as they are shown. -/
def renderEntries : List (String × Value) → List String
  | [] => []
  | (key, value) :: entries => (Text.quoted key ++ ": " ++ value.render) :: renderEntries entries

end

/-- The name of a value's type. -/
def typeName : Value → String
  | null => "NoneType"
  | bool _ => "bool"
  | int _ => "int"
  | float _ => "float"
  | text _ => "str"
  | date _ => "datetime.date"
  | time _ => "datetime.time"
  | moment .. => "datetime.datetime"
  | list _ => "list"
  | table _ => "dict"

/-- Whether a value counts as true: everything does but nothing, zero and what is empty. -/
def isTruthy : Value → Bool
  | null => false
  | bool b => b
  | int n => n != 0
  | float x => x != 0.0
  | text s => s != ""
  | list items => !items.isEmpty
  | table entries => !entries.isEmpty
  | date _ | time _ | moment .. => true

end Value

end Calculator
