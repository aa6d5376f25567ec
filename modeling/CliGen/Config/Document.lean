import CliGen.Config.Basic
import CliGen.Toml.Printer
import CliGen.Toml.Reader

/-!
# Settings as documents

Settings are kept as TOML, with a table for each group. What a document leaves out has its standard
value, and what it says beyond that is passed over.
-/

namespace CliGen.Config

/-! ## Writing -/

/-- The tables of settings. -/
def tables (c : Config) : List (String × List (String × Toml.Setting)) :=
  [("generation", [
      ("max_depth", .nat c.generation.maxDepth),
      ("hook_threshold", .nat c.generation.hookThreshold),
      ("targets", .texts c.generation.targets),
      ("output_dir", .text c.generation.outputDir),
      ("parallel", .bool c.generation.parallel)]),
   ("writer", [
      ("backup", .bool c.writer.backup),
      ("dry_run", .bool c.writer.dryRun)]),
   ("logging",
      ("level", .text c.logging.level) ::
        (c.logging.file.map fun file => ("file", Toml.Setting.text file)).toList)]

/-- The document of settings. Only a number that is too large keeps settings from being written. -/
def document (c : Config) : Outcome String :=
  match Toml.tables? c.tables with
  | some text => .ok text
  | none => .error (.config "Failed to serialize config" (some "out-of-range value for u64 type"))

/-! ## Reading -/

/-- The members of a table by name, or of a list in the order of the names. -/
def members? (names : List String) : Value → Option Fields
  | .object fields => some fields
  | .list items => some (names.zip items)
  | _ => none

/-- The value of a member, or the standard one where it is left out. -/
def member {α : Type} (fields : Fields) (name : String) (standard : α) (read : Value → Option α) :
    Option α :=
  match fields.get? name with
  | some v => read v
  | none => some standard

/-- A number from zero on. -/
def natural? : Value → Option Nat
  | .int n => if 0 ≤ n then some n.toNat else none
  | _ => none

/-- A truth value. -/
def truth? : Value → Option Bool
  | .bool b => some b
  | _ => none

/-- A list of texts. -/
def texts? (v : Value) : Option (List String) := do (← v.list?).mapM Value.str?

/-- The settings of one table. -/
def readGeneration? (v : Value) : Option GenerationConfig := do
  let standard := Config.standard.generation
  let names := ["max_depth", "hook_threshold", "targets", "output_dir", "parallel"]
  let fields ← members? names v
  let maxDepth ← member fields "max_depth" standard.maxDepth natural?
  let hookThreshold ← member fields "hook_threshold" standard.hookThreshold natural?
  let targets ← member fields "targets" standard.targets texts?
  let outputDir ← member fields "output_dir" standard.outputDir Value.str?
  let parallel ← member fields "parallel" standard.parallel truth?
  return ⟨maxDepth, hookThreshold, targets, outputDir, parallel⟩

@[inherit_doc readGeneration?]
def readWriter? (v : Value) : Option WriterConfig := do
  let standard := Config.standard.writer
  let fields ← members? ["backup", "dry_run"] v
  let backup ← member fields "backup" standard.backup truth?
  let dryRun ← member fields "dry_run" standard.dryRun truth?
  return ⟨backup, dryRun⟩

@[inherit_doc readGeneration?]
def readLogging? (v : Value) : Option LoggingConfig := do
  let standard := Config.standard.logging
  let fields ← members? ["level", "file"] v
  let level ← member fields "level" standard.level Value.str?
  let file ← member fields "file" standard.file fun v => v.str?.map some
  return ⟨level, file⟩

/-- The settings of a document. -/
def ofValue? (v : Value) : Option Config := do
  let standard := Config.standard
  let fields ← v.object?
  let generation ← member fields "generation" standard.generation readGeneration?
  let writer ← member fields "writer" standard.writer readWriter?
  let logging ← member fields "logging" standard.logging readLogging?
  return ⟨generation, writer, logging⟩

/-- The settings of a text; refuses settings that no run can use. -/
def read (text : String) : Outcome Config :=
  match (Toml.parse text).bind ofValue? with
  | none => .error (.config "Failed to parse config file" none)
  | some c => do
    c.validate
    return c

end CliGen.Config
