import CliGen.CommandLine.Help
import CliGen.CommandLine.Result
import CliGen.Config.File
import CliGen.Hook.Index
import CliGen.Target.Builtin

/-!
# Running requests

A request is run with the settings that apply where the program is started. All files are reached
through `Files`, so a run on a `Disk` is a plain function.
-/

namespace CliGen.CommandLine

/-- What the program finds around it. -/
structure Surroundings where
  home : Option String
  /-- The directory that the program is started in. -/
  directory : String
  /-- The file with settings that the environment names. -/
  config : Option String

/-- What a run works with. -/
structure Context where
  project : Option String
  settings : ConfigFile

namespace Context

/-- The settings of a run. -/
def config (c : Context) : Config := c.settings.config

/-- The directory that output is written below. -/
def base (c : Context) : String := c.project.getD "."

/-- The target that is meant: the one that is asked for, or the first of the settings. -/
def target (c : Context) (requested : Option String) : String :=
  (requested.or c.config.generation.targets.head?).getD "python"

end Context

variable {m : Type → Type} [Monad m] [Files m]

/-- A step of a run. -/
abbrev Step (m : Type → Type) := ExceptT Failure m

/-- A step that may meet a problem. -/
def step {α : Type} (s : ExceptT Problem m α) : Step m α := s.adapt Failure.ofProblem

/-- A step that may meet a problem, and what is told of it first. -/
def stepIn {α : Type} (message : String) (s : ExceptT Problem m α) : Step m α :=
  s.adapt (Failure.inContext message)

/-! ## Settings for a run -/

/-- The project: the one that is named, or the working directory if it holds settings. -/
def findProject (s : Surroundings) (named : Option String) : Step m (Option String) := do
  match named with
  | some path =>
    unless ← ExceptT.lift (Files.hasDirectory path) do
      throw (.plain s!"Project path is not a directory: {path}")
    return some path
  | none =>
    match ConfigFile.pathFor s.home (some s.directory) with
    | .ok path => return if ← ExceptT.lift (Files.has path) then some s.directory else none
    | .error _ => return none

/-- What a run works with. -/
def findContext (s : Surroundings) (i : Invocation) : Step m Context := do
  let project ← findProject s i.project
  return ⟨project, ← step (ConfigFile.load s.home project i.config)⟩

/-- Make the directory of the log, if there is a file for it. The answer tells whether a log can be
kept. -/
def openLog (c : LoggingConfig) : Step m Bool := do
  match c.file with
  | none => return true
  | some file =>
    if (Path.fileName? file).isNone then throw (.plain s!"Invalid log file path: {file}")
    let directory := match Path.parent? file with
      | none | some "" => "."
      | some directory => directory
    return (← ExceptT.lift (Files.makeDirectories directory)).isOk

/-! ## Requests -/

/-- The tree of a description. -/
def loadTree (c : Context) (input : String) : Step m CommandTree :=
  stepIn s!"Invalid CLI description {input}" (readTree input c.config.generation.maxDepth)

/-- What is told of the files of a target, and whether it failed. -/
def describeDelivery (dryRun : Bool) : String × Outcome Delivery → List String × Bool
  | (id, .ok d) =>
    let verb := if dryRun then "would write" else "written"
    let written := d.report.written.length
    let unchanged := d.report.unchanged.length
    let counts := s!"{written} {verb}, {unchanged} unchanged, {d.skipped.length} kept"
    let paths := if dryRun then d.report.written.map ("    " ++ ·) else []
    (s!"✓ {id} → {d.directory} ({counts})" :: paths, false)
  | (id, .error p) =>
    let note :=
      if p.isFatal then ["    nothing was rendered for this target"]
      else (p.commandPath?.map fun path => s!"    failing command: {displayPath path}").toList
    (s!"✗ {id}: {p.message}" :: note, true)

/-- Generate the files of targets. -/
def runGenerate (c : Context) (input : String) (targets : List String) (output : Option String)
    (dryRun sequential : Bool) : Step m Result := do
  let ids := (if targets.isEmpty then c.config.generation.targets else targets).eraseDups
  if ids.isEmpty then
    throw (.plain "No targets requested. Use --target or set generation.targets")
  let root := output.getD (Path.join c.base c.config.generation.outputDir)
  let tree ← loadTree c input
  let settings := Settings.ofConfig c.config.generation
  let settings := { settings with parallel := settings.parallel && !sequential }
  let writer := Writer.ofConfig c.config.writer
  let writer := { writer with dryRun := dryRun || writer.dryRun }
  let deliveries ← ExceptT.lift (Registry.builtin.deliver settings writer tree root ids)
  let told := deliveries.map (describeDelivery writer.dryRun)
  let lines := told.flatMap (·.1)
  match told.countP (·.2) with
  | 0 => return .success lines
  | n => return .failed lines (.plain s!"{n} of {deliveries.length} targets failed")

/-- Check a description: its tree can be built, and its hooks can be named for every target. -/
def runValidate (c : Context) (input : String) : Step m Result := do
  let tree ← loadTree c input
  for (id, target) in Registry.builtin do
    let resolver := Hook.Resolver.make target.naming c.config.generation.hookThreshold
    discard (stepIn s!"Hook names clash for target '{id}'"
      (MonadExcept.ofExcept (Hook.Index.build tree resolver)))
  let managed := tree.walk.countP (·.lifecycle.isManaged)
  return .success ([
    s!"✓ {tree.cliName} {tree.version} is valid",
    s!"  commands:       {tree.nodeCount}",
    s!"  top-level:      {tree.commands.length}",
    s!"  max depth:      {tree.maxDepth}",
    s!"  global options: {tree.globalOptions.length}"] ++
    (if 0 < managed then [s!"  managed:        {managed}"] else []))

/-- What is told of a binding. -/
def describeBinding (b : Hook.Binding) : List String :=
  let indent := String.join (List.replicate b.path.length "  ")
  let name := " ".intercalate b.path
  let listed (names : List String) : String := ", ".intercalate names
  match b.controller with
  | none => [
    s!"{indent}{name} → {b.canonical}",
    s!"{indent}  lookup: {listed b.candidates}"]
  | some k => [
    s!"{indent}{name} [managed] → {k.canonical}",
    s!"{indent}  controllers: {listed k.candidates}"] ++
    k.actions.map fun a => s!"{indent}  {a.name}: {listed a.candidates}"

/-- Tell the hooks of a description. -/
def runHooks (c : Context) (input : String) (requested : Option String) : Step m Result := do
  let target ← step (MonadExcept.ofExcept (Registry.builtin.get (c.target requested)))
  let tree ← loadTree c input
  let resolver := Hook.Resolver.make target.naming c.config.generation.hookThreshold
  let index ← step (MonadExcept.ofExcept (Hook.Index.build tree resolver))
  return .success (s!"Hook bindings for {tree.cliName} ({target.displayName}):" ::
    index.bindings.flatMap describeBinding)

/-- Tell the targets. -/
def runTargets (c : Context) : Result :=
  let line : String × Target → String := fun (id, target) =>
    let mark := if id = c.target none then " (default)" else ""
    s!"  {Help.padRight 12 id} {target.displayName}{mark}"
  .success ("Available targets:" :: Registry.builtin.map line)

/-- Make a file with standard settings. -/
def runInit (s : Surroundings) (c : Context) (inHome force : Bool) : Step m Result := do
  let project := if inHome then none else some c.base
  let file ← step (MonadExcept.ofExcept (ConfigFile.withDefaults s.home project))
  if !force && (← ExceptT.lift (Files.has file.path)) then
    return .success [
      s!"Configuration already initialized at: {file.path}",
      "Use --force to overwrite"]
  stepIn "Failed to write configuration" file.save
  return .success [
    s!"Configuration initialized successfully at: {file.path}",
    "",
    "Next steps:",
    "  cli-forge validate cli.yaml",
    "  cli-forge generate cli.yaml --target python"]

/-- Tell or change settings. -/
def runConfig (c : Context) : ConfigRequest → Step m Result
  | .show => do
    let text ← step (MonadExcept.ofExcept c.config.document)
    return .success [s!"# {c.settings.path} ({c.settings.source.name})", text]
  | .set key value => do
    let (outcome, config) := (Config.change key value).run.run c.config
    step (MonadExcept.ofExcept outcome)
    step ({ c.settings with config } : ConfigFile).save
    return .success [s!"Configuration updated: {key} = {value}"]
  | .get key => do
    let value ← step (MonadExcept.ofExcept (c.config.getNamed key))
    return .success [value]

/-- Run a request. -/
def runRequest (s : Surroundings) (c : Context) : Request → Step m Result
  | .generate input targets output dryRun sequential =>
    runGenerate c input targets output dryRun sequential
  | .validate input => runValidate c input
  | .hooks input target => runHooks c input target
  | .targets => return runTargets c
  | .init inHome force => runInit s c inHome force
  | .config request => runConfig c request

/-- The version of the program. -/
def version : String := "cli-forge 0.1.0"

/-- Run the program with arguments. -/
def run (s : Surroundings) (arguments : List String) : m Result := do
  match Invocation.read s.config arguments with
  | .error .misuse => return .misuse
  | .error (.help path) => return .success (Help.page s.config path)
  | .error .version => return .success [version]
  | .ok i =>
    let steps : Step m Result := do
      let context ← findContext s i
      if ← openLog context.config.logging then runRequest s context i.request
      else return .broken
    match ← steps.run with
    | .ok result => return result
    | .error failure => return .failed [] failure

end CliGen.CommandLine
