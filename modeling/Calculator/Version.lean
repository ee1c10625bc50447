import Calculator.Fault
import Calculator.Text.Blank
import Calculator.Text.Line

/-!
# Versions

The version of a project is what its description file assigns to `version` at the start of a line,
or else the version of the installed package, or else zero.
-/

namespace Calculator.Version

open Calculator.Text

/-- The version of this calculator. -/
def own : String :=
  "0.1.0"

/-- The version of something that is not installed. -/
def unknown : String :=
  "0.0.0"

/-- Whether a character is a quote. -/
def isQuote (c : Char) : Bool :=
  c == '"' || c == '\''

/-- The rest of a text behind a given beginning. -/
def behind? : List Char → List Char → Option (List Char)
  | [], cs => some cs
  | p :: ps, c :: cs => if p = c then behind? ps cs else none
  | _ :: _, [] => none

/-- What a text that starts with a quote quotes: something between two quotes of either kind. -/
def quotation? : List Char → Option (List Char)
  | [] => none
  | c :: cs =>
    let body := cs.takeWhile (!isQuote ·)
    if isQuote c && !body.isEmpty && body.length < cs.length then some body else none

/-- The version that a text assigns at its very start: `version`, an equals sign and a quotation,
with blanks and line ends between them. -/
def assigned? (cs : List Char) : Option (List Char) := do
  let rest ← behind? "version".toList cs
  let rest ← behind? ['='] (rest.dropWhile isBlank)
  quotation? (rest.dropWhile isBlank)

/-- The first version that a text assigns at the start of a line.  The flag says whether the text
itself is at the start of a line. -/
def firstAssigned? (atStart : Bool) : List Char → Option (List Char)
  | [] => none
  | c :: cs =>
    match if atStart then assigned? (c :: cs) else none with
    | some body => some body
    | none => firstAssigned? (c == '\n') cs

/-- The version that the description of a project states. -/
def stated? (description : String) : Option String :=
  (firstAssigned? true (withLineFeeds description).toList).map String.ofList

/-- The version of a project with the given description, if there is one, and the given result of
looking for the installed package, which is needed only where the description states none. -/
def find (description : Option String) (installed : Except Fault (Option String)) :
    Except Fault String :=
  match description.bind stated? with
  | some version => .ok version
  | none => installed.map (·.getD unknown)

/-- The fault of package data that cannot be read. -/
def unreadable : Fault :=
  .raised .runtime "metadata unreadable"

end Calculator.Version
