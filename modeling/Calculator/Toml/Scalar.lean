import Calculator.Decimal.Reading
import Calculator.Toml.Basic
import Calculator.Value

/-!
# Numbers and dates of a configuration

Whole numbers in four bases, floats, dates, times of day, and dates with a time of day and perhaps
an offset from universal time.  A low line may stand between two digits of a number.
-/

namespace Calculator.Toml

/-! ### Runs of digits -/

/-- A run of digits at the front, with low lines between digits, and the text behind it. -/
def digitRun (p : Char → Bool) : List Char → List Char × List Char
  | [] => ([], [])
  | c :: cs =>
    if p c then
      match cs with
      | '_' :: d :: rest =>
        if p d then
          let run := digitRun p (d :: rest)
          (c :: '_' :: run.1, run.2)
        else ([c], cs)
      | cs =>
        let run := digitRun p cs
        (c :: run.1, run.2)
    else ([], c :: cs)

/-- The value of a digit in a base up to sixteen. -/
def baseDigit (c : Char) : Nat :=
  if c.isDigit then c.toNat - '0'.toNat else c.toLower.toNat - 'a'.toNat + 10

/-- The value of digits in a base, low lines left out. -/
def baseValue (base : Nat) (cs : List Char) : Nat :=
  (cs.filter (· != '_')).foldl (fun n c => base * n + baseDigit c) 0

/-- A whole number in base ten with the given sign. -/
def decimalInt (negative : Bool) (digits : List Char) : Except Flaw Value :=
  let count := (digits.filter (· != '_')).length
  if mostDigits < count then .error (.tooManyDigits count)
  else
    let n : Int := baseValue 10 digits
    .ok (.int (if negative then -n else n))

/-- Whether a character is a digit in base sixteen. -/
def isHex (c : Char) : Bool :=
  c.isDigit || ('a' ≤ c && c ≤ 'f') || ('A' ≤ c && c ≤ 'F')

/-- The base that a letter behind a zero announces, and the test for its digits. -/
def base? : Char → Option (Nat × (Char → Bool))
  | 'x' => some (16, isHex)
  | 'o' => some (8, fun c => '0' ≤ c && c ≤ '7')
  | 'b' => some (2, fun c => c == '0' || c == '1')
  | _ => none

/-- A whole number in a base other than ten at the front. -/
def basedInt? : List Char → Option (Value × List Char)
  | '0' :: c :: cs => do
    let (base, p) ← base? c
    let run := digitRun p cs
    if run.1.isEmpty then none else some (.int (baseValue base run.1), run.2)
  | _ => none

/-! ### Numbers -/

/-- The digits in front of the point: a single zero, or a run that starts with none. -/
def wholePart : List Char → List Char × List Char
  | '0' :: cs => (['0'], cs)
  | cs => digitRun Char.isDigit cs

/-- The point and the digits behind it at the front, if both are there. -/
def fractionPart (cs : List Char) : List Char × List Char :=
  match cs with
  | '.' :: rest =>
    let run := digitRun Char.isDigit rest
    if run.1.isEmpty then ([], cs) else ('.' :: run.1, run.2)
  | cs => ([], cs)

/-- The exponent at the front, if there is one. -/
def exponentPart (cs : List Char) : List Char × List Char :=
  match cs with
  | e :: rest =>
    if e = 'e' ∨ e = 'E' then
      let sign := (rest.take 1).filter fun c => c == '+' || c == '-'
      let run := digitRun Char.isDigit (rest.drop sign.length)
      if run.1.isEmpty then ([], cs) else (e :: sign ++ run.1, run.2)
    else ([], cs)
  | [] => ([], cs)

/-- A float that is spelled by a word: infinity or an undefined one. -/
def wordFloat? (negative : Bool) : List Char → Option (Value × List Char)
  | 'i' :: 'n' :: 'f' :: rest => some (.float (Decimal.Literal.infinite negative).toFloat, rest)
  | 'n' :: 'a' :: 'n' :: rest => some (.float Decimal.Literal.undefined.toFloat, rest)
  | _ => none

/-- A number in base ten at the front: a sign, digits, and a point or an exponent if it is a
float. -/
def decimalNumber (cs : List Char) : Read Value :=
  let (negative, body) := Decimal.takeSign cs
  let whole := wholePart body
  if whole.1.isEmpty then
    match wordFloat? negative body with
    | some read => .ok read
    | none => .error .malformed
  else
    let fraction := fractionPart whole.2
    let exponent := exponentPart fraction.2
    if fraction.1.isEmpty && exponent.1.isEmpty then
      (decimalInt negative whole.1).map (·, exponent.2)
    else
      match Decimal.literal? (whole.1 ++ fraction.1 ++ exponent.1) with
      | some (.finite _ value) => .ok (.float (value.toFloat negative), exponent.2)
      | _ => .error .malformed

/-- A number at the front. -/
def number (cs : List Char) : Read Value :=
  match basedInt? cs with
  | some read => .ok read
  | none => decimalNumber cs

/-! ### Dates and times -/

/-- The natural number that exactly `width` digits at the front state. -/
def fixedDigits? (width : Nat) (cs : List Char) : Option (Nat × List Char) :=
  let digits := cs.take width
  if digits.length = width ∧ digits.all Char.isDigit then
    some (baseValue 10 digits, cs.drop width)
  else none

/-- The text behind a given character at the front. -/
def behindChar? (expected : Char) : List Char → Option (List Char)
  | c :: cs => if c = expected then some cs else none
  | [] => none

/-- Hours and minutes of a clock at the front. -/
def clock? (cs : List Char) : Option ((Nat × Nat) × List Char) := do
  let (hour, rest) ← fixedDigits? 2 cs
  let rest ← behindChar? ':' rest
  let (minute, rest) ← fixedDigits? 2 rest
  if hour < 24 ∧ minute < 60 then some ((hour, minute), rest) else none

/-- The microseconds behind a point at the front; digits beyond the sixth are left out. -/
def microseconds (cs : List Char) : Nat × List Char :=
  match cs with
  | '.' :: rest =>
    let digits := rest.takeWhile Char.isDigit
    if digits.isEmpty then (0, cs)
    else (baseValue 10 ((digits ++ List.replicate 6 '0').take 6), rest.dropWhile Char.isDigit)
  | cs => (0, cs)

/-- A time of day at the front. -/
def time? (cs : List Char) : Option (Time × List Char) := do
  let ((hour, minute), rest) ← clock? cs
  let rest ← behindChar? ':' rest
  let (second, rest) ← fixedDigits? 2 rest
  if second < 60 then
    let (microsecond, rest) := microseconds rest
    some (⟨hour, minute, second, microsecond⟩, rest)
  else none

/-- The offset from universal time at the front, in seconds, if there is one. -/
def offset? (cs : List Char) : Option (Int × List Char) :=
  match cs with
  | c :: rest =>
    if c = 'Z' ∨ c = 'z' then some (0, rest)
    else if c = '+' ∨ c = '-' then
      (clock? rest).map fun ((hour, minute), rest) =>
        let seconds : Int := (hour * 60 + minute) * 60
        (if c = '-' then -seconds else seconds, rest)
    else none
  | [] => none

/-- Whether a year has a 29th of February. -/
def isLeapYear (year : Nat) : Bool :=
  year % 4 == 0 && (year % 100 != 0 || year % 400 == 0)

/-- The number of days of a month. -/
def daysInMonth (year month : Nat) : Nat :=
  if month = 2 then if isLeapYear year then 29 else 28
  else if month ∈ [4, 6, 9, 11] then 30
  else 31

/-- The digits of a date at the front, with a month and a day that some year may have. -/
def date? (cs : List Char) : Option (Date × List Char) := do
  let (year, rest) ← fixedDigits? 4 cs
  let rest ← behindChar? '-' rest
  let (month, rest) ← fixedDigits? 2 rest
  let rest ← behindChar? '-' rest
  let (day, rest) ← fixedDigits? 2 rest
  if 1 ≤ month ∧ month ≤ 12 ∧ 1 ≤ day ∧ day ≤ 31 then some (⟨year, month, day⟩, rest) else none

/-- Whether the calendar has a date; it starts with the year one. -/
def isInCalendar (d : Date) : Bool :=
  1 ≤ d.year && d.day ≤ daysInMonth d.year d.month

/-- The time of day behind a date and a separator at the front, with its offset. -/
def timeOfDate? (cs : List Char) : Option ((Time × Option Int) × List Char) :=
  match cs with
  | c :: rest =>
    if c = 'T' ∨ c = 't' ∨ c = ' ' then
      (time? rest).map fun (t, rest) =>
        match offset? rest with
        | some (seconds, rest) => ((t, some seconds), rest)
        | none => ((t, none), rest)
    else none
  | [] => none

/-- A date, a time of day, or both at the front, if there is one. -/
def dateOrTime? (cs : List Char) : Option (Read Value) :=
  match date? cs with
  | some (d, rest) => some <|
    if !isInCalendar d then .error .malformed
    else
      match timeOfDate? rest with
      | some ((t, offset), rest) => .ok (.moment d t offset, rest)
      | none => .ok (.date d, rest)
  | none => (time? cs).map fun (t, rest) => .ok (.time t, rest)

/-- A value without parts at the front that is neither quoted nor a truth value. -/
def scalar (cs : List Char) : Read Value :=
  (dateOrTime? cs).getD (number cs)

end Calculator.Toml
