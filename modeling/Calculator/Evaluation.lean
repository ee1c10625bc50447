import Calculator.Resolver
import Calculator.Token
import Calculator.Trig

/-!
# Evaluating tokens

An expression is evaluated while its tokens are read, one after the other and from left to right;
no tree is built.  What has been read is either waiting for an operand or stands for a value; each
operator waits for its right operand, and each open parenthesis keeps what waits outside of it.

The grammar is the usual one, from the loosest to the tightest binding:

* an expression is one term or several joined by `+` and `-`;
* a term is one factor or several joined by `*` and `/`;
* a factor is a number, a variable, a function name with an expression in parentheses, or an
  expression in parentheses.

Operators of one strength are taken from the left.  A variable is resolved at each of its uses.  A
divisor is tested when it is known, and a function's name is looked up when its argument is known.
The first failure ends the evaluation.
-/

namespace Calculator

namespace Evaluation

/-! ### What waits for operands -/

/-- The operators that join terms. -/
inductive SumOp where
  | add
  | subtract
deriving Repr, DecidableEq

/-- The operators that join factors. -/
inductive ProductOp where
  | multiply
  | divide
deriving Repr, DecidableEq

/-- The operator between terms that a token is. -/
def sumOp? (t : Token) : Option SumOp :=
  if t.kind = .operator ∧ t.text = "+" then some .add
  else if t.kind = .operator ∧ t.text = "-" then some .subtract
  else none

/-- The operator between factors that a token is. -/
def productOp? (t : Token) : Option ProductOp :=
  if t.kind = .operator ∧ t.text = "*" then some .multiply
  else if t.kind = .operator ∧ t.text = "/" then some .divide
  else none

/-- The sum or difference of two floats. -/
def SumOp.apply : SumOp → Float → Float → Float
  | add, x, y => x + y
  | subtract, x, y => x - y

/-- The product or quotient of two floats; there is no quotient by either zero. -/
def ProductOp.apply : ProductOp → Float → Float → Except Failure Float
  | multiply, x, y => .ok (x * y)
  | divide, x, y => if y == 0.0 then .error (.error { cause := .divisionByZero }) else .ok (x / y)

/-- The operators of one pair of parentheses that wait for their right operands, each with its left
operand. -/
structure Pending where
  sum : Option (Float × SumOp) := none
  product : Option (Float × ProductOp) := none

/-- The value of the term that a factor extends. -/
def Pending.term (pending : Pending) (x : Float) : Except Failure Float :=
  match pending.product with
  | none => .ok x
  | some (left, op) => op.apply left x

/-- The value of the expression that a term extends. -/
def Pending.expression (pending : Pending) (x : Float) : Float :=
  match pending.sum with
  | none => x
  | some (left, op) => op.apply left x

/-- What a parenthesis was opened for. -/
inductive Opener where
  | group
  | call (function : Token)

/-- An open parenthesis, and what waits outside of it. -/
structure Frame where
  opener : Opener
  pending : Pending

/-- What may come next. -/
inductive Stage where
  /-- The start of a factor. -/
  | operand
  /-- The parenthesis behind a function name. -/
  | argument (function : Token)
  /-- Something behind a factor, where the factors so far make up the given value. -/
  | value (x : Float)

/-- What has been read of an expression: what may come next, what waits in the innermost open
parenthesis, and the open parentheses from the inside out. -/
structure State where
  stage : Stage := .operand
  pending : Pending := {}
  frames : List Frame := []

/-! ### One token -/

/-- What is to be read. -/
inductive Goal where
  | factor
  | term
  | expression
  /-- An expression with nothing but the end behind it. -/
  | whole
deriving Repr, DecidableEq

/-- The operator with which a token joins another factor to what is to be read. -/
def Goal.productOp? : Goal → Token → Option ProductOp
  | .factor, _ => none
  | _, t => Evaluation.productOp? t

/-- The operator with which a token joins another term to what is to be read. -/
def Goal.sumOp? : Goal → Token → Option SumOp
  | .factor, _ | .term, _ => none
  | _, t => Evaluation.sumOp? t

/-- The failure of a token that breaks the grammar. -/
def breachAt (t : Token) (breach : Error.Breach) : Failure :=
  .error { cause := .malformedExpression breach, pos := some t.pos }

/-- The failure of a token where none like it can stand. -/
def unexpected (t : Token) : Failure :=
  breachAt t (.unexpectedToken t.text)

/-- The failure of parentheses nested too deeply. -/
def tooDeep : Failure :=
  .fault (.raised .recursion "maximum recursion depth exceeded")

/-- The value of a number token. -/
def numberValue (t : Token) : Except Failure Float :=
  match Decimal.float? t.text with
  | some x => .ok x
  | none => .error (.error { cause := .malformedNumber t.text, pos := some t.pos })

/-- The value of what an open parenthesis was opened for, from the value inside. -/
def Opener.apply : Opener → Float → Except Failure Float
  | group, x => .ok x
  | call function, x =>
    match Trig.ofName? function.text with
    | some f => (f.ofDegrees x).mapError .fault
    | none =>
      .error (.error { cause := .unknownFunction function.text, pos := some function.pos })

/-- How the grammar is broken when an open parenthesis is not closed. -/
def Opener.breach : Opener → Error.Breach
  | group => .unclosedGroup
  | call _ => .unclosedCall

namespace State

/-- What has been read when a factor with the given value has been read as well. -/
def factor (s : State) (x : Float) : Except Failure State :=
  (s.pending.term x).map fun y =>
    { s with stage := .value y, pending := { s.pending with product := none } }

/-- What has been read when a parenthesis has been opened as well, of which at most `limit` may be
open. -/
def opened (s : State) (limit : Nat) (opener : Opener) : Except Failure State :=
  if s.frames.length < limit then .ok { frames := ⟨opener, s.pending⟩ :: s.frames }
  else .error tooDeep

/-- What has been read when an operator has been read behind the value `x`. -/
def joined? (s : State) (goal : Goal) (x : Float) (t : Token) : Option State :=
  match goal.productOp? t with
  | some op => some { s with stage := .operand, pending := { s.pending with product := (x, op) } }
  | none =>
    (goal.sumOp? t).map fun op =>
      { s with stage := .operand, pending := { sum := (s.pending.expression x, op) } }

end State

/-- What is done about the next token. -/
inductive Action where
  /-- The token is read, and what has been read with it. -/
  | read (next : State)
  /-- The token is read; it is a variable, whose value is an operand. -/
  | ask
  /-- The token is read, and the evaluation fails. -/
  | fail (e : Failure)
  /-- The token is not read, and the evaluation fails. -/
  | refuse (e : Failure)
  /-- The token is not read, and what was to be read has the given value. -/
  | stop (x : Float)

/-- Reads a token unless that fails. -/
def Action.ofExcept : Except Failure State → Action
  | .ok next => read next
  | .error e => fail e

/-- What is done about the token `t` when a factor must come next. -/
def State.onOperand (s : State) (limit : Nat) (t : Token) : Action :=
  match t.kind with
  | .lparen => .ofExcept (s.opened limit .group)
  | .number => .ofExcept ((numberValue t).bind s.factor)
  | .variable => .ask
  | .function => .read { s with stage := .argument t }
  | .operator | .rparen | .eof => .refuse (unexpected t)

/-- What is done about the token `t` behind a function name. -/
def State.onArgument (s : State) (limit : Nat) (function t : Token) : Action :=
  if t.kind = .lparen then .ofExcept (s.opened limit (.call function))
  else .refuse (breachAt t .noArgument)

/-- What is done about the token `t` behind a value.  Inside parentheses a whole expression is
read, whatever is to be read outside. -/
def State.onValue (s : State) (goal : Goal) (x : Float) (t : Token) : Action :=
  match s.frames with
  | [] =>
    match s.joined? goal x t with
    | some next => .read next
    | none =>
      if goal = .whole ∧ t.kind ≠ .eof then .refuse (unexpected t)
      else .stop (s.pending.expression x)
  | frame :: frames =>
    match s.joined? .expression x t with
    | some next => .read next
    | none =>
      if t.kind = .rparen then
        .ofExcept ((frame.opener.apply (s.pending.expression x)).bind
          { pending := frame.pending, frames : State }.factor)
      else .refuse (breachAt t frame.opener.breach)

/-- What is done about the next token. -/
def State.on (s : State) (limit : Nat) (goal : Goal) (t : Token) : Action :=
  match s.stage with
  | .operand => s.onOperand limit t
  | .argument function => s.onArgument limit function t
  | .value x => s.onValue goal x t

/-! ### Queries -/

/-- What an evaluation leaves behind besides its result: the state of the resolver, the names that
were queried, and what was reported. -/
structure Transcript (σ : Type) where
  state : σ
  queries : Array String := #[]
  events : Array Event := #[]

/-- The failure of a variable's token whose query failed: errors stay as they are, and so do faults
that are not about the value. -/
def queryFailure (t : Token) : Failure → Failure
  | .error e => .error e
  | .fault f =>
    if f.kind.isAboutValue then
      .error { cause := .unresolvedVariable t.text (.failed f.message), pos := some t.pos }
    else .fault f

variable {σ : Type}

/-- The number that an answer to the query of a variable's token stands for. -/
def answerValue (t : Token) (answer : Except Failure Value) : Except Failure Float :=
  (answer.bind fun value => value.toFloat.mapError .fault).mapError (queryFailure t)

/-- Queries the variable that a token is. -/
def Transcript.query (R : Resolver σ) (log : Transcript σ) (t : Token) :
    Except Failure Float × Transcript σ :=
  let reply := R.resolve log.state t.text
  let events := log.events ++ reply.events
  let queries := log.queries.push t.text
  match answerValue t reply.answer with
  | .ok x => (.ok x, ⟨reply.state, queries, events.push (.resolved t.text x)⟩)
  | .error e => (.error e, ⟨reply.state, queries, events⟩)

/-! ### All tokens -/

/-- How an evaluation ends: its result, the index of the first token that was not read, and what is
left behind. -/
structure Outcome (σ : Type) where
  result : Except Failure Float
  cursor : Nat
  log : Transcript σ

/-- How an evaluation ends when the tokens themselves have come to an end. -/
def State.atEnd (s : State) (goal : Goal) : Except Failure Float :=
  match s.stage, s.frames, goal with
  | .value x, [], .factor => .ok x
  | _, _, _ => .error (.fault .noToken)

/-- Reads tokens until the goal is reached or something fails.  The first of the tokens has the
index `cursor`. -/
def run (R : Resolver σ) (limit : Nat) (goal : Goal) (s : State) (cursor : Nat)
    (log : Transcript σ) : List Token → Outcome σ
  | [] => ⟨s.atEnd goal, cursor, log⟩
  | t :: ts =>
    match s.on limit goal t with
    | .read next => run R limit goal next (cursor + 1) log ts
    | .ask =>
      let (answer, log) := log.query R t
      match answer.bind s.factor with
      | .ok next => run R limit goal next (cursor + 1) log ts
      | .error e => ⟨.error e, cursor + 1, log⟩
    | .fail e => ⟨.error e, cursor + 1, log⟩
    | .refuse e => ⟨.error e, cursor, log⟩
    | .stop x => ⟨.ok x, cursor, log⟩

/-- The failure of an evaluation: parentheses or queries nested too deeply are an error in the
expression. -/
def evaluationFailure : Failure → Failure
  | .error e => .error e
  | .fault f => if f.kind = .recursion then .error { cause := .nestingTooDeep } else .fault f

/-- Whether the last token is the end. -/
def isTerminated (tokens : List Token) : Bool :=
  match tokens.getLast? with
  | some t => t.kind = .eof
  | none => false

/-- Reports the result of an evaluation of so many tokens. -/
def Outcome.reported (count : Nat) (outcome : Outcome σ) : Outcome σ :=
  match outcome.result with
  | .ok x =>
    let log := outcome.log
    { outcome with log := { log with events := log.events.push (.evaluated count x) } }
  | .error e => { outcome with result := .error (evaluationFailure e) }

end Evaluation

open Evaluation

variable {σ : Type}

/-- Evaluates the tokens of an expression.  Only tokens with the end behind them are evaluated. -/
def evaluate (R : Resolver σ) (limit : Nat) (state : σ) (tokens : List Token) : Outcome σ :=
  if isTerminated tokens then
    (run R limit .whole {} 0 { state } tokens).reported tokens.length
  else ⟨.error (.fault .unterminated), 0, { state }⟩

/-- Evaluates the tokens of an expression if there is a resolver. -/
def evaluateWith? (R : Option (Resolver σ)) (limit : Nat) (state : σ) (tokens : List Token) :
    Outcome σ :=
  match R with
  | some R => evaluate R limit state tokens
  | none => ⟨.error (.fault .noResolver), 0, { state }⟩

end Calculator
