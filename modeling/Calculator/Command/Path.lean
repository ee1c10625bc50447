import Calculator.Fault

/-!
# Paths

A path is shown without the parts that say nothing: empty ones, and those that name the folder they
stand in.  A path that holds the character zero is refused before it is looked at (`pathFault?`).
-/

namespace Calculator.Command

/-- The parts of a path that say something. -/
def pathParts (path : String) : List String :=
  (path.splitOn "/").filter fun part => part ≠ "" ∧ part ≠ "."

/-- What stands in front of the parts of a path: nothing, one slash, or exactly two. -/
def pathRoot (path : String) : String :=
  let slashes := (path.toList.takeWhile (· == '/')).length
  if slashes = 0 then "" else if slashes = 2 then "//" else "/"

/-- A path as it is shown. -/
def plainPath (path : String) : String :=
  let plain := pathRoot path ++ "/".intercalate (pathParts path)
  if plain = "" then "." else plain

/-! ### Paths that are refused -/

/-- The fault of a path with the character zero, which the system takes for the end of a path. -/
def pathFault? (path : String) : Option Fault :=
  if '\x00' ∈ path.toList then some (.raised .badValue "embedded null byte") else none

end Calculator.Command
