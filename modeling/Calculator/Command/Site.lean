import Calculator.Command.Invocation
import Calculator.Command.Report
import Calculator.Settings
import Calculator.Surroundings

/-!
# Sites

A run takes what it needs from its site: the files, the lines of input, the environment, the limits
of the stack, and the pages that it shows as they are.  Where a file is looked for there may be
none, there may be one that can be read or not, and the system may refuse to look at all
(`Sighting`).  `Site.config?` finds the configuration file of a run.
-/

namespace Calculator.Command

/-! ### Looking for files -/

/-- What is found at a path where a file is looked for. -/
inductive Sighting where
  /-- There is no file. -/
  | nothing
  /-- There is a file, with its bytes or the fault of reading them. -/
  | file (contents : Except Fault ByteArray)
  /-- The system refuses to look. -/
  | refused (fault : Fault)

namespace Sighting

/-- Whether there is a file. -/
def isFile : Sighting → Bool
  | file _ => true
  | nothing | refused _ => false

/-- The bytes of the file, if there is one. -/
def bytes : Sighting → Except Fault (Option ByteArray)
  | nothing => .ok none
  | file contents => contents.map some
  | refused fault => .error fault

end Sighting

/-! ### The site of a run -/

/-- Where the program runs. -/
structure Site where
  /-- The folder the program runs in. -/
  folder : String
  /-- What is found at a path that starts from the folder. -/
  look : String → Sighting := fun _ => .nothing
  /-- Whether there is something at a path, taken as it is written, that may not be read. -/
  denies : String → Bool := fun _ => false
  surroundings : Surroundings := {}
  /-- The lines of input. -/
  input : List String := []
  limits : Limits := .usual
  /-- The reports of runs that show a page about the program. -/
  pages : Page → Report := fun _ => {}
  /-- A line about the machine, shown below the version. -/
  machine : String := ""

namespace Site

/-! ### The configuration file of a run -/

/-- The path of the configuration file in the folder itself, and its bytes, if it is there. -/
def defaultConfig? (site : Site) : Except Fault (Option (String × ByteArray)) :=
  (site.look Settings.fileName).bytes.map fun bytes? => do
    let path ← Settings.find? site.folder fun name => (site.look name).isFile
    return (path, ← bytes?)

/-- The configuration file that a task uses, and its bytes: the one that it names, which must be
there and be readable, or else the one in the folder. -/
def config? (site : Site) : Option String → Except Report (Option (String × ByteArray))
  | some given =>
    let path := plainPath given
    -- what stands there must be readable even if it is no file
    if site.denies given then .error (.usage ("Path " ++ Text.quoted given ++ " is not readable."))
    else
      match (site.look path).bytes with
      | .ok (some bytes) => .ok (some (path, bytes))
      | .ok none => .error (.usage ("Config file not found: " ++ path))
      | .error fault => .error (.crash fault)
  | none => site.defaultConfig?.mapError Report.crash

end Site

end Calculator.Command
