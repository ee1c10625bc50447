/-!
# Switches

The arguments of a command are switches, the values of switches, and operands.  A switch has a long
name such as `--config` and perhaps a letter, so that `-c` stands for it too; it may take a value,
which is attached to it or is the argument behind it.  Letters can share one argument, the last of
them with its value attached.  Behind the argument `--` there are only operands.

`readArguments` reads the arguments one after the other.
-/

namespace Calculator.Command

/-- What giving a switch means. -/
inductive Meaning (α : Type) where
  /-- The switch takes no value. -/
  | plain (a : α)
  /-- The switch takes a value. -/
  | valued (f : String → α)

/-- A switch that a command understands. -/
structure Switch (α : Type) where
  long : String
  letter : Option Char := none
  meaning : Meaning α

variable {α : Type}

/-- The meaning of a long name. -/
def longMeaning? (switches : List (Switch α)) (name : String) : Option (Meaning α) :=
  (switches.find? (·.long = name)).map Switch.meaning

/-- The meaning of a letter. -/
def letterMeaning? (switches : List (Switch α)) (letter : Char) : Option (Meaning α) :=
  (switches.find? (·.letter = some letter)).map Switch.meaning

/-- What has been read of the arguments of a command. -/
structure Reading (α : Type) where
  /-- The switches given so far. -/
  given : List α := []
  operands : List String := []
  /-- The switch whose value comes next. -/
  waiting : Option (String → α) := none
  /-- Whether only operands follow. -/
  closed : Bool := false

namespace Reading

/-- What has been read when a switch has been read as well, perhaps with a value attached to it.  A
value that its switch does not take is an error. -/
def switch? (r : Reading α) (attached : Option String) : Meaning α → Option (Reading α)
  | .plain a => if attached.isNone then some { r with given := r.given ++ [a] } else none
  | .valued f =>
    match attached with
    | some value => some { r with given := r.given ++ [f value] }
    | none => some { r with waiting := some f }

/-- What has been read when an argument of letters has been read as well. -/
def letters? (switches : List (Switch α)) (r : Reading α) : List Char → Option (Reading α)
  | [] => some r
  | c :: cs =>
    match letterMeaning? switches c with
    | none => none
    | some (.plain a) => letters? switches { r with given := r.given ++ [a] } cs
    | some (.valued f) =>
      r.switch? (if cs.isEmpty then none else some (String.ofList cs)) (.valued f)

/-- The part of an argument in front of its first equals sign, and the part behind it if there is
one. -/
def splitAttached (argument : List Char) : String × Option String :=
  let value := argument.dropWhile (· != '=')
  (String.ofList (argument.takeWhile (· != '=')),
    if value.isEmpty then none else some (String.ofList value.tail))

/-- What has been read when an argument that looks like a switch has been read as well. -/
def named? (switches : List (Switch α)) (r : Reading α) (argument : List Char) :
    Option (Reading α) :=
  let (name, attached) := splitAttached argument
  match longMeaning? switches name with
  | some meaning => r.switch? attached meaning
  | none => if ['-', '-'].isPrefixOf argument then none else r.letters? switches argument.tail

/-- Whether an argument looks like a switch: a hyphen and something behind it. -/
def looksLikeSwitch (argument : List Char) : Bool :=
  argument.head? == some '-' && argument.length > 1

/-- What has been read when one more argument has been read.  Unless switches and operands may be
mixed, only operands follow the first operand. -/
def next? (switches : List (Switch α)) (mixed : Bool) (r : Reading α) (argument : String) :
    Option (Reading α) :=
  match r.waiting with
  | some f => some { r with given := r.given ++ [f argument], waiting := none }
  | none =>
    if r.closed then some { r with operands := r.operands ++ [argument] }
    else if argument = "--" then some { r with closed := true }
    else if looksLikeSwitch argument.toList then r.named? switches argument.toList
    else some { r with operands := r.operands ++ [argument], closed := !mixed }

end Reading

/-- The switches and the operands among the arguments of a command.  There are none if a switch is
not known, is given a value it does not take, or is not given one that it takes. -/
def readArguments (switches : List (Switch α)) (mixed : Bool) (arguments : List String) :
    Option (List α × List String) := do
  let r ← arguments.foldlM (Reading.next? switches mixed) {}
  if r.waiting.isSome then none else some (r.given, r.operands)

end Calculator.Command
