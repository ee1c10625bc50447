/-!
# Limits

What stands within something else is taken on by a function that calls itself, and the stack on
which such calls are kept is used up at some depth.  How deep that is depends on the machine and on
what calls the function, so it is left open here: whatever reads, evaluates or shows nested things
is told its limit.
-/

namespace Calculator

/-- How deeply things may stand within each other before the stack is used up. -/
structure Limits where
  /-- The most parentheses of an expression that may be open at once. -/
  parentheses : Nat
  /-- The room for values within each other in a configuration; a list takes two parts of it, a
  table on one line three. -/
  room : Nat
  /-- The most values within each other that are shown. -/
  shown : Nat
deriving Repr, DecidableEq

/-- Limits as they are found on a machine with an ordinary stack. -/
def Limits.usual : Limits where
  parentheses := 320
  room := 950
  shown := 960

end Calculator
