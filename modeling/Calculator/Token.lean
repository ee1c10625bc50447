import Calculator.Text.Quoted

/-!
# Tokens

A token is a piece of an expression with its kind, its spelling and the position of its first
character.  The end of an expression is a token too, the only one without a spelling.
-/

namespace Calculator

namespace Token

/-- The kinds of tokens. -/
inductive Kind where
  | number
  | variable
  | function
  | operator
  | lparen
  | rparen
  /-- The end of the expression. -/
  | eof
deriving Repr, DecidableEq

/-- The name of a kind. -/
def Kind.name : Kind → String
  | .number => "number"
  | .variable => "variable"
  | .function => "function"
  | .operator => "operator"
  | .lparen => "lparen"
  | .rparen => "rparen"
  | .eof => "eof"

/-- All kinds in their order. -/
def Kind.all : List Kind :=
  [.number, .variable, .function, .operator, .lparen, .rparen, .eof]

/-- The kind with a given name. -/
def Kind.ofName? (name : String) : Option Kind :=
  all.find? (·.name = name)

theorem Kind.ofName?_name (kind : Kind) : ofName? kind.name = some kind := by
  cases kind <;> rfl

end Token

/-- A token of an expression. -/
structure Token where
  kind : Token.Kind
  text : String
  pos : Nat
  /-- The end, and nothing else, is spelled by no character. -/
  text_eq_empty_iff : text = "" ↔ kind = .eof
deriving DecidableEq

namespace Token

theorem eq_of_fields {s t : Token} (kind : s.kind = t.kind) (text : s.text = t.text)
    (pos : s.pos = t.pos) : s = t := by
  cases s; cases t; simp_all

/-- The end of an expression. -/
def atEnd (pos : Nat) : Token :=
  ⟨.eof, "", pos, by simp⟩

/-- The token spelled by a character and those after it. -/
def ofChars (kind : Kind) (c : Char) (cs : List Char) (pos : Nat) (h : kind ≠ .eof) : Token :=
  ⟨kind, String.ofList (c :: cs), pos, by simp [h]⟩

/-- A token as it is shown. -/
def render (t : Token) : String :=
  "Token(" ++ t.kind.name ++ ", " ++ Text.quoted t.text ++ ", pos=" ++ toString t.pos ++ ")"

end Token

end Calculator
