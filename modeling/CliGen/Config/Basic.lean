import CliGen.Problem
import CliGen.Text.Ascii
import CliGen.Text.Blank

/-!
# Settings

The settings of a run, the keys that name them, and the texts by which they are read and changed.
-/

namespace CliGen

/-- What shapes the tree and its rendering. -/
structure GenerationConfig where
  /-- The deepest nesting of commands. -/
  maxDepth : Nat
  /-- Commands with longer paths get abbreviated hook names. -/
  hookThreshold : Nat
  /-- The targets to generate when none are asked for. -/
  targets : List String
  outputDir : String
  /-- Whether targets are rendered at once. -/
  parallel : Bool
  deriving DecidableEq

/-- How files are written. -/
structure WriterConfig where
  /-- Whether files that are replaced are kept under another name. -/
  backup : Bool
  dryRun : Bool
  deriving DecidableEq

/-- What is logged, and where. -/
structure LoggingConfig where
  level : String
  /-- A file for the log, instead of the console. -/
  file : Option String
  deriving DecidableEq

/-- All settings. -/
structure Config where
  generation : GenerationConfig
  writer : WriterConfig
  logging : LoggingConfig
  deriving DecidableEq

namespace Config

/-- The settings where nothing is set. -/
def standard : Config where
  generation := ⟨16, 3, ["python"], "generated", true⟩
  writer := ⟨true, false⟩
  logging := ⟨"info", none⟩

/-- The levels of logging. -/
def levels : List String := ["trace", "debug", "info", "warn", "error"]

/-- The keys of the settings. -/
inductive Key where
  | maxDepth
  | hookThreshold
  | targets
  | outputDir
  | parallel
  | backup
  | dryRun
  | level
  | file
  deriving DecidableEq

namespace Key

/-- All keys in order. -/
def all : List Key :=
  [maxDepth, hookThreshold, targets, outputDir, parallel, backup, dryRun, level, file]

/-- The name of a key: its table and its name in there. -/
def name : Key → String
  | maxDepth => "generation.max_depth"
  | hookThreshold => "generation.hook_threshold"
  | targets => "generation.targets"
  | outputDir => "generation.output_dir"
  | parallel => "generation.parallel"
  | backup => "writer.backup"
  | dryRun => "writer.dry_run"
  | level => "logging.level"
  | file => "logging.file"

/-- The key of a name. -/
def parse? (name : String) : Option Key := all.find? (·.name == name)

end Key

/-! ## Texts of settings -/

/-- A truth value as a text. -/
def truthText (b : Bool) : String := if b then "true" else "false"

/-- The truth value of a text. -/
def readTruth? : String → Option Bool
  | "true" => some true
  | "false" => some false
  | _ => none

/-- The largest number that a setting can have. -/
def maxNumber : Nat := 2 ^ 64 - 1

/-- The positive number of a text, which may start with a plus sign. -/
def readCount? (text : String) : Option Nat := do
  let digits := match text.toList with
    | '+' :: rest => rest
    | cs => cs
  let n ← Text.number? digits
  guard (0 < n ∧ n ≤ maxNumber)
  return n

/-- The items of a text that lists them with commas in between, without the blanks around them. -/
def readItems (text : String) : List String :=
  ((Text.splitAt ',' text).map Text.trim).filter (· != "")

/-! ## Reading and changing -/

/-- The text of a setting. -/
def get (c : Config) : Key → String
  | .maxDepth => toString c.generation.maxDepth
  | .hookThreshold => toString c.generation.hookThreshold
  | .targets => ",".intercalate c.generation.targets
  | .outputDir => c.generation.outputDir
  | .parallel => truthText c.generation.parallel
  | .backup => truthText c.writer.backup
  | .dryRun => truthText c.writer.dryRun
  | .level => c.logging.level
  | .file => c.logging.file.getD "None"

/-- Give a setting the value of a text; refuses a text that is none of its values. -/
def set? (c : Config) (key : Key) (text : String) : Option Config :=
  let ⟨generation, writer, logging⟩ := c
  match key with
  | .maxDepth => (readCount? text).map fun n => ⟨{ generation with maxDepth := n }, writer, logging⟩
  | .hookThreshold =>
    (readCount? text).map fun n => ⟨{ generation with hookThreshold := n }, writer, logging⟩
  | .targets =>
    let items := readItems text
    if items.isEmpty then none else some ⟨{ generation with targets := items }, writer, logging⟩
  | .outputDir =>
    if Text.trim text == "" then none
    else some ⟨{ generation with outputDir := text }, writer, logging⟩
  | .parallel => (readTruth? text).map fun b => ⟨{ generation with parallel := b }, writer, logging⟩
  | .backup => (readTruth? text).map fun b => ⟨generation, { writer with backup := b }, logging⟩
  | .dryRun => (readTruth? text).map fun b => ⟨generation, { writer with dryRun := b }, logging⟩
  | .level =>
    let level := Text.lowerAscii text
    if levels.contains level then some ⟨generation, writer, { logging with level }⟩ else none
  | .file =>
    let file := if text == "" || text == "None" then none else some text
    some ⟨generation, writer, { logging with file }⟩

/-- The text of the setting that a name stands for. -/
def getNamed (c : Config) (name : String) : Outcome String :=
  match Key.parse? name with
  | some key => .ok (c.get key)
  | none => .error (.unknownConfigKey name)

/-- Give the setting that a name stands for the value of a text. -/
def setNamed (c : Config) (name text : String) : Outcome Config :=
  match Key.parse? name with
  | none => .error (.unknownConfigKey name)
  | some key =>
    match c.set? key text with
    | some c => .ok c
    | none => .error (.invalidConfigValue name text)

/-- Give the setting that a name stands for the value of a text, in place. -/
def change (name text : String) : ExceptT Problem (StateM Config) Unit := do
  let c ← MonadState.get
  let changed ← MonadExcept.ofExcept (c.setNamed name text)
  MonadState.set changed

/-- Refuse settings that no run can use. -/
def validate (c : Config) : Outcome Unit :=
  let refuse (key : Key) : Outcome Unit := .error (.invalidConfigValue key.name (c.get key))
  if c.generation.maxDepth = 0 then refuse .maxDepth
  else if c.generation.hookThreshold = 0 then refuse .hookThreshold
  else if !levels.contains c.logging.level then refuse .level
  else .ok ()

end Config

end CliGen
