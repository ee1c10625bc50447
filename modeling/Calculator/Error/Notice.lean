import Calculator.Error

/-!
# Notices

A notice is an error that is told to a user, with the text that is shown.  The text is written down
when the error is made, and once more when an excerpt is added to it, so that showing a notice needs
nothing but its text.
-/

namespace Calculator

namespace Error

/-! ### Making errors -/

/-- The causes of errors whose messages are stated by whoever makes them. -/
inductive Stated where
  | general (message : String)
  | evaluation (message : String)
  | malformedExpression (breach : Breach)
  | configuration (message : String)
deriving Repr, DecidableEq

/-- The cause that is stated. -/
def Stated.cause : Stated → Cause
  | general message => .general message
  | evaluation message => .evaluation message
  | malformedExpression breach => .malformedExpression breach
  | configuration message => .configuration message

/-- What an error is made from.  Only an error with a stated message can be given an excerpt when it
is made, and an error about a quotient or about the depth of an expression has no position. -/
inductive Making where
  | stated (what : Stated) (pos : Option Nat) (excerpt : Option Excerpt)
  | unexpectedCharacter (text : String) (pos : Nat)
  | malformedNumber (text : String) (pos : Option Nat)
  | divisionByZero
  | nestingTooDeep
  | unknownFunction (name : String) (pos : Option Nat)
  | unresolvedVariable (name : String) (want : Want) (pos : Option Nat)
deriving Repr, DecidableEq

/-- The error that is made. -/
def Making.error : Making → Error
  | stated what pos excerpt => { cause := what.cause, pos, excerpt }
  | unexpectedCharacter text pos => { cause := .unexpectedCharacter text, pos := some pos }
  | malformedNumber text pos => { cause := .malformedNumber text, pos }
  | divisionByZero => { cause := .divisionByZero }
  | nestingTooDeep => { cause := .nestingTooDeep }
  | unknownFunction name pos => { cause := .unknownFunction name, pos }
  | unresolvedVariable name want pos => { cause := .unresolvedVariable name want, pos }

end Error

/-! ### Notices -/

/-- An error, and its text as it was written down last. -/
structure Notice where
  error : Error
  text : String
deriving Repr, DecidableEq

namespace Notice

/-- An error whose text is written down. -/
def ofError (e : Error) : Notice :=
  { error := e, text := e.text }

/-- Adds the excerpt of a source to an error that has a position and no excerpt yet, and writes its
text down again. -/
def attachSource (n : Notice) (source : String) : Notice :=
  match n.error.pos, n.error.excerpt with
  | some pos, none => ofError { n.error with excerpt := some ⟨source, pos⟩ }
  | _, _ => n

/-- Adds the excerpts of several sources, one after the other. -/
def attachSources (n : Notice) (sources : List String) : Notice :=
  sources.foldl attachSource n

end Notice

end Calculator
