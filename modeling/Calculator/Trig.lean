import Calculator.Fault

/-!
# Functions of angles

Sine, cosine and tangent of an angle in degrees.  The angle is turned into radians by one
multiplication with the float nearest to a 180th of pi.  An infinite angle has none of them.
-/

namespace Calculator

/-- The functions that an expression may call. -/
inductive Trig where
  | cos
  | sin
  | tan
deriving Repr, DecidableEq

namespace Trig

/-- The name of a function. -/
def name : Trig → String
  | cos => "cos"
  | sin => "sin"
  | tan => "tan"

/-- All functions in the order of their names. -/
def all : List Trig :=
  [cos, sin, tan]

/-- The function with a given name. -/
def ofName? (name : String) : Option Trig :=
  all.find? (·.name = name)

theorem ofName?_name (f : Trig) : ofName? f.name = some f := by
  cases f <;> rfl

/-- The function with a given name, or the fault that no function has it. -/
def named (name : String) : Except Fault Trig :=
  match ofName? name with
  | some f => .ok f
  | none => .error (.ofValues .missingKey [.text name])

/-- The function of an angle in radians. -/
def ofRadians : Trig → Float → Float
  | cos => Float.cos
  | sin => Float.sin
  | tan => Float.tan

/-- One degree in radians. -/
def degree : Float :=
  3.141592653589793 / 180.0

/-- The function of an angle in degrees. -/
def ofDegrees (f : Trig) (angle : Float) : Except Fault Float :=
  let radians := angle * degree
  if radians.isInf then .error .infiniteAngle else .ok (f.ofRadians radians)

end Trig

end Calculator
