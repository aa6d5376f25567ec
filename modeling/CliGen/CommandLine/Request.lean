import CliGen.CommandLine.Arguments

/-!
# Requests

What the program can be asked for on its command line.
-/

namespace CliGen.CommandLine

/-- What to do with settings. -/
inductive ConfigRequest where
  | show
  | set (key value : String)
  | get (key : String)
  deriving DecidableEq

/-- What the program is asked for. -/
inductive Request where
  /-- Generate the files of targets. -/
  | generate (input : String) (targets : List String) (output : Option String)
      (dryRun sequential : Bool)
  /-- Check a description. -/
  | validate (input : String)
  /-- Tell the hooks of a description. -/
  | hooks (input : String) (target : Option String)
  /-- Tell the targets. -/
  | targets
  /-- Make a file with standard settings. -/
  | init (inHome force : Bool)
  | config (request : ConfigRequest)
  deriving DecidableEq

/-- A request, and what goes with every request. -/
structure Invocation where
  request : Request
  project : Option String
  config : Option String
  deriving DecidableEq

namespace Invocation

/-- The environment variable that names the file with the settings. -/
def configVariable : String := "CLI_FORGE_CONFIG"

/-- Options that every command takes. -/
def common : List OptionRule := [
  { name := "project", letter := none, kind := .value false false, environment := none
    about := "Project path for project-level configuration" },
  { name := "config", letter := none, kind := .value false false, environment := configVariable
    about := "Explicit configuration file (overrides project and global lookup)" },
  { name := "verbose", letter := 'v', kind := .flag, environment := none
    about := "Enable verbose output" }]

/-- The option that asks for help on the command at a path. -/
def helpOption (path : List String) : OptionRule where
  name := "help"
  letter := 'h'
  kind := .halt (.help path)
  environment := none
  about := "Print help"

/-- The option that asks for the version. -/
def versionOption : OptionRule where
  name := "version"
  letter := 'V'
  kind := .halt .version
  environment := none
  about := "Print version"

/-- What is told of a command, which is given by its name and the names of those it belongs to. -/
def about : List String → String
  | [] => "Generate multi-language CLI applications from one declarative description"
  | ["generate"] => "Generate CLI code for one or more targets"
  | ["validate"] => "Check a CLI description and summarise its command tree"
  | ["hooks"] => "Show the hook names each command looks up"
  | ["targets"] => "List available targets"
  | ["init"] => "Initialize configuration"
  | ["config"] => "Configure settings"
  | ["config", "show"] => "Show current configuration"
  | ["config", "set"] => "Set configuration value"
  | ["config", "get"] => "Get configuration value"
  | path =>
    if path.getLast? = some "help" then "Print this message or the help of the given subcommand(s)"
    else ""

/-- The subcommands of a command. -/
def subcommands : List String → List String
  | [] => ["generate", "validate", "hooks", "targets", "init", "config", "help"]
  | ["config"] => ["show", "set", "get", "help"]
  | _ => []

/-- The options that only one command takes. -/
def ownOptions : List String → List OptionRule
  | ["generate"] => [
    { name := "target", letter := 't', kind := .value true true, environment := none
      about := "Target to generate; repeatable. Defaults to generation.targets" },
    { name := "output", letter := 'o', kind := .value false false, environment := none
      about := "Output directory; each target is written to a subdirectory" },
    { name := "dry-run", letter := none, kind := .flag, environment := none
      about := "Show what would be written without touching the disk" },
    { name := "sequential", letter := none, kind := .flag, environment := none
      about := "Render targets one after another" }]
  | ["hooks"] => [
    { name := "target", letter := 't', kind := .value false true, environment := none
      about := "Target whose naming convention is used" }]
  | ["init"] => [
    { name := "global", letter := 'g', kind := .flag, environment := none
      about := "Initialize global configuration (default is project-level)" },
    { name := "force", letter := 'f', kind := .flag, environment := none
      about := "Force overwrite existing configuration" }]
  | _ => []

/-- The file that describes a command line. -/
def inputOperand : OperandRule := ⟨"<CONFIG>", false, "CLI description (YAML, TOML or JSON)"⟩

/-- The operands of a command; only keys and values may be empty. -/
def operands : List String → List OperandRule
  | ["generate"] | ["validate"] | ["hooks"] => [inputOperand]
  | ["config", "set"] => [
    ⟨"<KEY>", true, "Configuration key (e.g., generation.max_depth)"⟩,
    ⟨"<VALUE>", true, "Value to set"⟩]
  | ["config", "get"] => [⟨"<KEY>", true, "Configuration key"⟩]
  | _ => []

/-- What a command takes. Only the program itself tells its version. -/
def rule (path : List String) : Rule where
  options := ownOptions path ++ common ++ [helpOption path] ++
    if path.isEmpty then [versionOption] else []
  operands := operands path
  subcommands := subcommands path

/-- The command that help is asked for has to be one. -/
def readHelp (path : List String) : List String → Halt
  | [] => .help path
  | name :: rest =>
    if (subcommands path).contains name then readHelp (path ++ [name]) rest else .misuse

/-- What is given to a command and to the subcommands that are called, each with its path. The fuel
bounds the subcommands. -/
def readLevels : Nat → List String → List String → Except Halt (List (List String × Given))
  | 0, _, _ => .error .misuse
  | fuel + 1, path, arguments => do
    match ← (rule path).read arguments with
    | (given, none) => return [(path, given)]
    | (given, some (name, rest)) =>
      if name = "help" then throw (readHelp path rest)
      return (path, given) :: (← readLevels fuel (path ++ [name]) rest)

/-- The request of a command to which something is given. -/
def request? (path : List String) (g : Given) : Option Request :=
  match path, g.operands with
  | ["generate"], [input] =>
    some (.generate input (g.values "target") (g.value? "output") (g.has "dry-run")
      (g.has "sequential"))
  | ["validate"], [input] => some (.validate input)
  | ["hooks"], [input] => some (.hooks input (g.value? "target"))
  | ["targets"], [] => some .targets
  | ["init"], [] => some (.init (g.has "global") (g.has "force"))
  | ["config", "show"], [] => some (.config .show)
  | ["config", "set"], [key, value] => some (.config (.set key value))
  | ["config", "get"], [key] => some (.config (.get key))
  | _, _ => none

/-- The invocation that arguments stand for. What goes with every request may be given to any of the
commands, the innermost first; the file with the settings may also be named by the environment. -/
def read (named : Option String) (arguments : List String) : Except Halt Invocation := do
  let levels ← readLevels (arguments.length + 1) [] arguments
  if named = some "" && levels.any (!·.2.has "config") then throw .misuse
  let some (path, given) := levels.getLast? | throw .misuse
  let some request := request? path given | throw .misuse
  let innermost (name : String) : Option String := levels.reverse.findSome? (·.2.value? name)
  return ⟨request, innermost "project", (innermost "config").or named⟩

end Invocation

end CliGen.CommandLine
