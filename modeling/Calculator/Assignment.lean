import Calculator.Bindings
import Calculator.Decimal.Reading
import Calculator.Text.Letter
import Calculator.Text.Quoted

/-!
# Assignments

An assignment is a text such as `x=3`: a name of letters, perhaps with blanks around it, then an
equals sign, then everything else, which must be a written number.
-/

namespace Calculator.Assignment

open Calculator.Text

/-- What may be wrong with an assignment. -/
inductive Flaw where
  /-- There is no equals sign, or nothing but blanks in front of it. -/
  | noName (text : String)
  /-- The name does not consist of letters. -/
  | badName (name : String)
  /-- The value is no number. -/
  | badValue (name value : String)
deriving Repr, DecidableEq

/-- The wording of a flaw. -/
def Flaw.message : Flaw → String
  | noName text => "Expected NAME=VALUE, got " ++ quoted text
  | badName name => "Variable name must contain letters only: " ++ quoted name
  | badValue name value => "Value for " ++ name ++ " is not a number: " ++ quoted value

/-- The option whose values are assignments. -/
def optionName : String :=
  "--var"

/-- Whether a character can stand in front of the equals sign. -/
def beforeEquals (c : Char) : Bool :=
  c != '='

/-- The name and the number of an assignment. -/
def ofText (text : String) : Except Flaw (String × Float) :=
  let name := strip (String.ofList (text.toList.takeWhile beforeEquals))
  let value := String.ofList ((text.toList.dropWhile beforeEquals).drop 1)
  if '=' ∉ text.toList ∨ name = "" then .error (.noName text)
  else if !isWord name then .error (.badName name)
  else
    match Decimal.float? value with
    | some x => .ok (name, x)
    | none => .error (.badValue name value)

/-- The bindings that assignments make one after the other, or what is wrong with the first bad
one. -/
def bindings (texts : List String) : Except Flaw (Bindings Float) :=
  (texts.mapM ofText).map .ofList

end Calculator.Assignment
