import Calculator.Bindings
import Calculator.Error
import Calculator.Limits
import Calculator.Text.Letter
import Calculator.Text.Line
import Calculator.Toml.Document

/-!
# Settings

Settings are read from a configuration file: the level to report at, values of variables, and
whether the user may be asked for others.  Everything in the file that is no setting is ignored.
What is wrong with a file is found in a fixed order: the tables of levels and prompts, the level,
the table of variables, and then the variables one after the other.
-/

namespace Calculator

/-- The settings of a calculator. -/
structure Settings where
  /-- The file the settings were read from. -/
  path : Option String := none
  /-- The name of the level to report at. -/
  level : Option String := none
  /-- The values of variables. -/
  bindings : Bindings Float := .empty
  /-- Whether the user may be asked for the values of other variables. -/
  prompts : Bool := true

namespace Settings

/-- What may be wrong with a configuration file. -/
inductive Issue where
  | malformed
  | notTable (name : String) (value : Value)
  | badLevel (value : Value)
  | notNumber (name : String) (value : Value)
  | badName (name : String)

/-- The wording of an issue with the file at a path. -/
def Issue.message (path : String) : Issue → String
  | malformed => path ++ ": invalid TOML"
  | notTable name value => path ++ ": [" ++ name ++ "] must be a table, got " ++ value.render
  | badLevel value => path ++ ": logging level must be a string, got " ++ value.render
  | notNumber name value =>
    path ++ ": variable '" ++ name ++ "' must be a number, got " ++ value.render
  | badName name => path ++ ": variable name '" ++ name ++ "' must contain letters only"

/-- The value that the wording of an issue shows, if it shows one. -/
def Issue.value? : Issue → Option Value
  | notTable _ value | badLevel value | notNumber _ value => some value
  | malformed | badName _ => none

/-- What keeps an issue from being worded, if its wording shows a value that cannot be shown. -/
def Issue.hindrance? (limits : Limits) (issue : Issue) : Option Fault :=
  issue.value?.bind (Value.hindrance? limits.shown)

/-- The failure that an issue with the file at a path makes.  An issue that cannot be worded is a
fault. -/
def Issue.failure (limits : Limits) (path : String) (issue : Issue) : Failure :=
  match issue.hindrance? limits with
  | none => .error { cause := .configuration (issue.message path) }
  | some fault => .fault fault

/-! ### The parts of a configuration -/

/-- The entries of a table that may be absent. -/
def section? (entries : List (String × Value)) (name : String) :
    Except Issue (List (String × Value)) :=
  match entries.lookup name with
  | none => .ok []
  | some (.table entries) => .ok entries
  | some value => .error (.notTable name value)

/-- The level of the table of levels. -/
def levelOf (entries : List (String × Value)) : Except Issue (Option String) :=
  match entries.lookup "level" with
  | none => .ok none
  | some (.text level) => .ok (some level)
  | some value => .error (.badLevel value)

/-- Whether a value counts as a number; truth values do not. -/
def isNumber : Value → Bool
  | .int _ | .float _ => true
  | _ => false

/-- The number that a variable is given. -/
def numberOf (limits : Limits) (path name : String) (value : Value) : Except Failure Float :=
  if !isNumber value then .error ((Issue.notNumber name value).failure limits path)
  else if !Text.isWord name then .error ((Issue.badName name).failure limits path)
  else value.toFloat.mapError .fault

/-- The values of the variables. -/
def bindingsOf (limits : Limits) (path : String) (entries : List (String × Value)) :
    Except Failure (Bindings Float) :=
  (entries.mapM fun (name, value) => (numberOf limits path name value).map (name, ·)).map .ofList

/-- The settings that the entries of the configuration at a path make. -/
def ofEntries (limits : Limits) (path : String) (entries : List (String × Value)) :
    Except Failure Settings := do
  let issue {α : Type} (result : Except Issue α) : Except Failure α :=
    result.mapError (Issue.failure limits path)
  let logging ← issue (section? entries "logging")
  let prompt ← issue (section? entries "prompt")
  let level ← issue (levelOf logging)
  let bindings ← bindingsOf limits path (← issue (section? entries "variables"))
  let prompts := ((prompt.lookup "enabled").map Value.isTruthy).getD true
  return { path := some path, level, bindings, prompts }

/-- The settings that the text of the configuration at a path makes. -/
def ofText (limits : Limits) (path text : String) : Except Failure Settings :=
  match Toml.read limits.room (Text.withLineFeeds text) with
  | .ok entries => ofEntries limits path entries
  | .error .malformed => .error (Issue.malformed.failure limits path)
  | .error (.tooManyDigits count) => .error (.fault (.tooManyDigits count))
  | .error .tooNested => .error (.fault .tooNested)

/-- The settings that the bytes of the configuration at a path make. -/
def ofBytes (limits : Limits) (path : String) (bytes : ByteArray) : Except Failure Settings :=
  match String.fromUTF8? bytes with
  | some text => ofText limits path text
  | none => .error (.fault .undecodable)

/-! ### Finding the file -/

/-- The name of a configuration file. -/
def fileName : String :=
  "reckon.toml"

/-- The path of a name in a folder. -/
def pathIn (folder name : String) : String :=
  folder ++ "/" ++ name

/-- The path of the configuration file of a folder, if the folder holds a file of that name. -/
def find? (folder : String) (isFile : String → Bool) : Option String :=
  if isFile fileName then some (pathIn folder fileName) else none

end Settings

end Calculator
