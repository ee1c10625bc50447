import Calculator.Text.Line

/-!
# Excerpts

An excerpt of a text is the line around a position with a caret under the position.  Only a line
feed ends a line, and the position may lie past the end of the text.
-/

namespace Calculator

/-- A text and a position in it, counted in characters. -/
structure Excerpt where
  source : String
  pos : Nat
deriving Repr, DecidableEq

namespace Excerpt

/-- The part of the line before the position. -/
def lineBefore (e : Excerpt) : List Char :=
  ((e.source.toList.take e.pos).reverse.takeWhile Text.inLine).reverse

/-- The part of the line from the position on. -/
def lineAfter (e : Excerpt) : List Char :=
  (e.source.toList.drop e.pos).takeWhile Text.inLine

/-- The line around the position. -/
def line (e : Excerpt) : List Char :=
  e.lineBefore ++ e.lineAfter

/-- The distance of the position from the start of its line. -/
def column (e : Excerpt) : Nat :=
  e.pos - ((e.source.toList.take e.pos).length - e.lineBefore.length)

/-- The line and, under it, the caret; both are set in by two spaces. -/
def format (e : Excerpt) : String :=
  String.ofList (' ' :: ' ' :: e.line ++ '\n' :: ' ' :: ' ' :: List.replicate e.column ' ' ++ ['^'])

end Excerpt

end Calculator
