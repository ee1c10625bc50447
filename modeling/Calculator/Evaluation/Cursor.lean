import Calculator.Evaluation

/-!
# A cursor over tokens

A cursor stands in front of one of the tokens of a list and can be moved by hand: it looks at
tokens, passes them, passes them only if they are of a kind, and reads factors, terms and
expressions.  A move that fails leaves the cursor where it stopped.
-/

namespace Calculator.Evaluation

/-- A list of tokens and the index of the token that comes next. -/
structure Cursor where
  tokens : List Token
  index : Nat := 0
deriving DecidableEq

/-- What a cursor can be asked to do. -/
inductive Move where
  /-- Look at the next token. -/
  | peek
  /-- Look at the token before; in front of all tokens that is the last one. -/
  | previous
  /-- Say whether the next token is the end. -/
  | isAtEnd
  /-- Say whether the next token is of a kind; none is of the kind of the end. -/
  | check (kind : Token.Kind)
  /-- Pass the next token unless it is the end. -/
  | advance
  /-- Pass the next token if it is of a kind and, if a spelling is given, has it. -/
  | accept (kind : Token.Kind) (text : Option String)
  /-- Pass the next token, which must be of a kind. -/
  | expect (kind : Token.Kind) (message : String)
  /-- Read a part of an expression. -/
  | read (goal : Goal)
deriving Repr, DecidableEq

/-- What a move gives. -/
inductive Answer where
  | flag (b : Bool)
  | token (t : Token)
  | number (x : Float)
deriving DecidableEq

namespace Cursor

/-- The token at an index. -/
def tokenAt (c : Cursor) (index : Nat) : Except Failure Token :=
  match c.tokens[index]? with
  | some t => .ok t
  | none => .error (.fault .noToken)

/-- The next token. -/
def peek (c : Cursor) : Except Failure Token :=
  c.tokenAt c.index

/-- The token before the next one. -/
def previous (c : Cursor) : Except Failure Token :=
  c.tokenAt (if c.index = 0 then c.tokens.length - 1 else c.index - 1)

/-- Whether a token is of a kind; none is of the kind of the end. -/
def matchesKind (kind : Token.Kind) (t : Token) : Bool :=
  t.kind != .eof && t.kind == kind

/-- The cursor behind the next token. -/
def next (c : Cursor) : Cursor :=
  { c with index := c.index + 1 }

/-- Passes the next token unless it is the end, and gives the token before. -/
def advance (c : Cursor) : Except Failure Token × Cursor :=
  match c.peek with
  | .ok t => if t.kind = .eof then (c.previous, c) else (c.next.previous, c.next)
  | .error e => (.error e, c)

/-- Passes the next token if it is of a kind and has the spelling given, and says whether it did. -/
def accept (c : Cursor) (kind : Token.Kind) (text : Option String) : Except Failure Bool × Cursor :=
  match c.peek with
  | .ok t =>
    if matchesKind kind t && (text.isNone || text == some t.text) then (.ok true, c.next)
    else (.ok false, c)
  | .error e => (.error e, c)

/-- Passes the next token if it is of a kind, and fails with the message otherwise. -/
def expect (c : Cursor) (kind : Token.Kind) (message : String) : Except Failure Token × Cursor :=
  match c.peek with
  | .ok t =>
    if matchesKind kind t then c.advance else (.error (breachAt t (.stated message)), c)
  | .error e => (.error e, c)

variable {σ : Type}

/-- Makes a move: the answer, the cursor behind the move, and what is left behind by it. -/
def perform (R : Resolver σ) (limit : Nat) (c : Cursor) (log : Transcript σ) :
    Move → Except Failure Answer × Cursor × Transcript σ
  | .peek => (c.peek.map .token, c, log)
  | .previous => (c.previous.map .token, c, log)
  | .isAtEnd => (c.peek.map fun t => .flag (t.kind == .eof), c, log)
  | .check kind => (c.peek.map fun t => .flag (matchesKind kind t), c, log)
  | .advance =>
    let (answer, c) := c.advance
    (answer.map .token, c, log)
  | .accept kind text =>
    let (answer, c) := c.accept kind text
    (answer.map .flag, c, log)
  | .expect kind message =>
    let (answer, c) := c.expect kind message
    (answer.map .token, c, log)
  | .read goal =>
    let outcome := run R limit goal {} c.index log (c.tokens.drop c.index)
    (outcome.result.map .number, { c with index := outcome.cursor }, outcome.log)

end Cursor

end Calculator.Evaluation
