import Calculator.Excerpt
import Calculator.Fault

/-!
# Errors

An error says what is wrong with an expression, or with the settings it is evaluated in: its cause,
the position it is about, and an excerpt of the source once that is known.  `Error.message` is the
wording of the cause and `Error.text` what a user sees.
-/

namespace Calculator

namespace Error

/-- The kinds of errors. -/
inductive Kind where
  | general
  | unexpectedCharacter
  | evaluation
  | malformedExpression
  | malformedNumber
  | divisionByZero
  | nestingTooDeep
  | unknownFunction
  | unresolvedVariable
  | configuration
deriving Repr, DecidableEq

/-- The next more general kind. -/
def Kind.parent : Kind → Option Kind
  | general => none
  | unexpectedCharacter | evaluation | configuration => some general
  | malformedExpression | malformedNumber | divisionByZero | nestingTooDeep | unknownFunction
  | unresolvedVariable => some evaluation

/-- A kind and all more general ones, from the special to the general. -/
def Kind.lineage (kind : Kind) : List Kind :=
  kind :: kind.parent.toList.flatMap fun parent => parent :: parent.parent.toList

/-- How the tokens of an expression break its grammar. -/
inductive Breach where
  /-- No expression can go on with this token. -/
  | unexpectedToken (text : String)
  /-- A parenthesis around an expression is not closed. -/
  | unclosedGroup
  /-- A function name is not followed by a parenthesis. -/
  | noArgument
  /-- The parenthesis around a function's argument is not closed. -/
  | unclosedCall
  /-- Whatever a caller who asks for a token has to say. -/
  | stated (message : String)
deriving Repr, DecidableEq

/-- The wording of a breach. -/
def Breach.message : Breach → String
  | unexpectedToken text => "unexpected token: " ++ text
  | unclosedGroup => "expect ')' after expression"
  | noArgument => "expected '(' after function name"
  | unclosedCall => "expected ')' after function argument"
  | stated message => message

/-- Why a variable has no value. -/
inductive Want where
  /-- The variable is not defined. -/
  | undefined
  /-- The user was asked for a value and the input had come to its end. -/
  | noAnswer
  /-- The user answered with something that is no number. -/
  | badAnswer (answer : String)
  /-- The resolver failed, or its value is no number. -/
  | failed (reason : String)
  /-- Whatever a resolver has to say. -/
  | stated (message : String)
deriving Repr, DecidableEq

/-- What a resolver has to say, which may be nothing. -/
def Want.ofMessage : Option String → Want
  | none | some "" => undefined
  | some message => stated message

/-- The wording for a variable without a value. -/
def Want.message (name : String) : Want → String
  | undefined => "Variable not defined: " ++ name
  | noAnswer => "No value entered for variable " ++ name
  | badAnswer answer => "Invalid value for variable " ++ name ++ ": " ++ Text.quoted answer
  | failed reason => "Cannot resolve variable " ++ name ++ ": " ++ reason
  | stated message => message

/-- The causes of errors. -/
inductive Cause where
  | general (message : String)
  | unexpectedCharacter (text : String)
  | evaluation (message : String)
  | malformedExpression (breach : Breach)
  | malformedNumber (text : String)
  | divisionByZero
  | nestingTooDeep
  | unknownFunction (name : String)
  | unresolvedVariable (name : String) (want : Want)
  | configuration (message : String)
deriving Repr, DecidableEq

namespace Cause

/-- The kind of error a cause makes. -/
def kind : Cause → Kind
  | general _ => .general
  | unexpectedCharacter _ => .unexpectedCharacter
  | evaluation _ => .evaluation
  | malformedExpression _ => .malformedExpression
  | malformedNumber _ => .malformedNumber
  | divisionByZero => .divisionByZero
  | nestingTooDeep => .nestingTooDeep
  | unknownFunction _ => .unknownFunction
  | unresolvedVariable .. => .unresolvedVariable
  | configuration _ => .configuration

/-- The wording of a cause. -/
def message : Cause → String
  | general message | evaluation message | configuration message => message
  | unexpectedCharacter text => "Unexpected character: " ++ Text.quoted text
  | malformedExpression breach => breach.message
  | malformedNumber text => "Malformed number: " ++ Text.quoted text
  | divisionByZero => "Division by zero"
  | nestingTooDeep => "expression nested too deeply"
  | unknownFunction name => "Unknown function: " ++ name
  | unresolvedVariable name want => want.message name

/-- The character, number or name that a cause is about. -/
def detail : Cause → Option String
  | unexpectedCharacter text | malformedNumber text => some text
  | unknownFunction name | unresolvedVariable name _ => some name
  | _ => none

end Cause

end Error

/-- What is wrong, where, and an excerpt of the source there. -/
structure Error where
  cause : Error.Cause
  pos : Option Nat := none
  excerpt : Option Excerpt := none
deriving Repr, DecidableEq

namespace Error

/-- The wording of an error. -/
def message (e : Error) : String :=
  e.cause.message

/-- What a user sees: the message, and under it the excerpt if there is one. -/
def text (e : Error) : String :=
  match e.excerpt with
  | some excerpt => e.message ++ "\n" ++ excerpt.format
  | none => e.message

/-- Adds the excerpt of a source to an error that has a position and no excerpt yet. -/
def attachSource (e : Error) (source : String) : Error :=
  match e.pos, e.excerpt with
  | some pos, none => { e with excerpt := some ⟨source, pos⟩ }
  | _, _ => e

end Error

/-- The failure of an operation on expressions: an error in the expression, or a fault. -/
inductive Failure where
  | error (e : Error)
  | fault (f : Fault)
deriving Repr, DecidableEq

/-- Adds the excerpt of a source to a failure that is an error. -/
def Failure.attachSource (source : String) : Failure → Failure
  | error e => error (e.attachSource source)
  | fault f => fault f

end Calculator
