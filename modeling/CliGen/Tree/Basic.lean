import CliGen.Text.Ascii
import CliGen.Text.Blank
import CliGen.Value.Basic

/-!
# Command trees

A command line as a tree of commands: what each takes, what lies below it and how it is bound to the
user's code. Children are found by name, and a command's depth is the number of commands above it.
-/

namespace CliGen

/-- The type of the values that an argument or option takes. -/
inductive ParamType where
  | string
  | integer
  | float
  | boolean
  | choice
  | path
  deriving DecidableEq

namespace ParamType

/-- The type that a description means by a word. -/
def parse? (word : String) : Option ParamType :=
  match Text.lowerAscii (Text.trim word) with
  | "str" | "string" | "text" => some .string
  | "int" | "integer" => some .integer
  | "float" | "number" => some .float
  | "bool" | "boolean" | "flag" => some .boolean
  | "choice" | "enum" => some .choice
  | "path" | "file" | "dir" => some .path
  | _ => none

/-- The name of a type in contexts and texts. -/
def name : ParamType → String
  | string => "string"
  | integer => "integer"
  | float => "float"
  | boolean => "boolean"
  | choice => "choice"
  | path => "path"

end ParamType

/-- What arguments and options have in common. -/
structure Param where
  name : String
  type : ParamType
  description : String
  required : Bool
  /-- The only values allowed, if they are listed. -/
  choices : Option (List Value)
  default : Option Value

/-- A value given by its position. -/
abbrev Argument := Param

/-- A value given by its name. -/
structure NamedOption extends Param where
  short : Option Char
  /-- The environment variable to use in place of the derived one. -/
  env : Option String

namespace NamedOption

/-- A flag is given without a value. -/
def isFlag (o : NamedOption) : Bool := o.type = .boolean

/-- One segment of an environment variable: ASCII letters as capitals, digits, and an underscore for
everything else. -/
def envSegment (segment : String) : String :=
  String.ofList (segment.toList.map fun c => if c.isAlphanum then c.toUpper else '_')

/-- The environment variable that can supply an option: its own, or the names of the command line,
of the commands on the way and of the option. -/
def envVar (o : NamedOption) (cliName : String) (path : List String) : String :=
  o.env.getD ("_".intercalate ((cliName :: path ++ [o.name]).map envSegment))

end NamedOption

/-- How a command is bound to the user's code: to one callable, or to a controller that starts,
stops, restarts and reports. -/
inductive Lifecycle where
  | standard
  | managed
  deriving DecidableEq

namespace Lifecycle

/-- What every controller does, in order. -/
def actions : List String := ["start", "stop", "restart", "status"]

def isManaged (l : Lifecycle) : Bool := l = .managed

def parse? : String → Option Lifecycle
  | "standard" => some .standard
  | "managed" => some .managed
  | _ => none

/-- The name of a lifecycle. -/
def name : Lifecycle → String
  | standard => "standard"
  | managed => "managed"

end Lifecycle

/-- A command. -/
structure Command where
  name : String
  description : String
  icon : Option String
  aliases : List String
  hidden : Bool
  arguments : List Argument
  options : List NamedOption
  lifecycle : Lifecycle
  /-- The names of the commands above, from the top. -/
  parentPath : List String
  subcommands : List Command

namespace Command

/-- The names from the top down to a command. -/
def path (c : Command) : List String := c.parentPath ++ [c.name]

/-- The number of commands above. -/
def depth (c : Command) : Nat := c.parentPath.length

/-- A group has commands below it. -/
def isGroup (c : Command) : Bool := !c.subcommands.isEmpty

/-- A leaf is bound to one callable of its own. -/
def isLeaf (c : Command) : Bool := !c.isGroup && !c.lifecycle.isManaged

/-- The command with a name. -/
def find? (name : String) (cs : List Command) : Option Command := cs.find? (·.name == name)

end Command

/-- A command line. -/
structure CommandTree where
  cliName : String
  version : String
  tagline : String
  description : Option String
  globalOptions : List NamedOption
  commands : List Command

/-! ## Walking -/

mutual

/-- The number of commands at and below a command. -/
def Command.size : Command → Nat
  | .mk _ _ _ _ _ _ _ _ _ subcommands => sizeAll subcommands + 1

/-- The number of commands at and below some commands. -/
def sizeAll : List Command → Nat
  | [] => 0
  | c :: rest => c.size + sizeAll rest

end

/-- A command counts itself and those below it. -/
theorem Command.size_eq (c : Command) : c.size = sizeAll c.subcommands + 1 := by
  cases c; rw [Command.size]

/-- Commands in a row count those of both parts. -/
theorem sizeAll_append (cs ds : List Command) : sizeAll (cs ++ ds) = sizeAll cs + sizeAll ds := by
  induction cs with
  | nil => simp [sizeAll]
  | cons c cs ih => simp only [List.cons_append, sizeAll, ih]; omega

/-- The commands of a list of pending ones and below them: the first pending command, then the
commands below it, then the others. -/
def walkPending : List Command → List Command
  | [] => []
  | c :: rest => c :: walkPending (c.subcommands ++ rest)
termination_by cs => sizeAll cs
decreasing_by rw [sizeAll_append, sizeAll, c.size_eq]; omega

namespace CommandTree

/-- Every command, each before those below it, siblings in declaration order. -/
def walk (t : CommandTree) : List Command := walkPending t.commands

/-- The number of commands. -/
def nodeCount (t : CommandTree) : Nat := t.walk.length

/-- The length of the longest command path. -/
def maxDepth (t : CommandTree) : Nat := (t.walk.map (·.depth + 1)).foldl max 0

/-- The command at a path. -/
def find? (t : CommandTree) : List String → Option Command
  | [] => none
  | name :: rest => rest.foldl (fun c n => c.bind fun c => Command.find? n c.subcommands)
      (Command.find? name t.commands)

/-- The name of the command line as an identifier: ASCII letters as small ones, digits, and an
underscore for everything else. -/
def packageName (t : CommandTree) : String :=
  String.ofList (t.cliName.toList.map fun c => if c.isAlphanum then c.toLower else '_')

end CommandTree

end CliGen
