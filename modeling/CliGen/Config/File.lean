import CliGen.Config.Document
import CliGen.Description
import CliGen.Generation

/-!
# Settings in files

Where settings are kept: in a file that is named, in the project, or in the home directory.
-/

namespace CliGen

/-- Where settings come from. -/
inductive ConfigSource where
  | explicit
  | project
  | global
  | defaults
  deriving DecidableEq

/-- The name of a source. -/
def ConfigSource.name : ConfigSource → String
  | explicit => "Explicit"
  | project => "Project"
  | global => "Global"
  | defaults => "Defaults"

/-- Settings and the file that they are kept in. -/
structure ConfigFile where
  path : String
  config : Config
  source : ConfigSource

namespace ConfigFile

/-- The file that holds the settings of a project, or those in the home directory. -/
def pathFor (home project : Option String) : Outcome String :=
  match project.or home with
  | some directory => .ok (Path.join (Path.join directory ".cli-forge") "forge.toml")
  | none => .error (.config "Failed to get base directories" none)

/-- Standard settings for the file of a project, or for the one in the home directory. -/
def withDefaults (home project : Option String) : Outcome ConfigFile := do
  return ⟨← pathFor home project, Config.standard, .defaults⟩

variable {m : Type → Type} [Monad m] [Files m]

/-- The settings in a file. -/
def read (path : String) (source : ConfigSource) : ExceptT Problem m ConfigFile := do
  let text ← readText path "read config file"
  return ⟨path, ← MonadExcept.ofExcept (Config.read text), source⟩

/-- The settings in a file, if there is such a file. -/
def read? (path : Outcome String) (source : ConfigSource) :
    ExceptT Problem m (Option ConfigFile) := do
  match path with
  | .error _ => return none
  | .ok path =>
    if ← ExceptT.lift (Files.has path) then return some (← read path source) else return none

/-- The settings to run with. A file that is named has to exist; else the file of the project goes
before the one in the home directory, and where there is neither the settings are the standard
ones. -/
def load (home project explicit : Option String) : ExceptT Problem m ConfigFile := do
  if let some path := explicit then
    if ← ExceptT.lift (Files.has path) then read path .explicit else throw (.fileNotFound path)
  else
    if let some directory := project then
      if let some file ← read? (pathFor home (some directory)) .project then return file
    if let some file ← read? (pathFor home none) .global then return file
    MonadExcept.ofExcept (withDefaults home project)

/-- Write settings to their file. -/
def save (f : ConfigFile) : ExceptT Problem m Unit := do
  if let some directory := Path.parent? f.path then
    onFile directory "create config directory" (Files.makeDirectories directory)
  let text ← MonadExcept.ofExcept f.config.document
  onFile f.path "write config file" (Files.write f.path text.toUTF8)

end ConfigFile

/-- The settings that rendering needs. -/
def Settings.ofConfig (c : GenerationConfig) : Settings :=
  ⟨⟨c.hookThreshold, c.maxDepth⟩, c.parallel⟩

/-- The settings that writing needs. -/
def Writer.ofConfig (c : WriterConfig) : Writer := ⟨c.backup, c.dryRun⟩

end CliGen
