import CliGen.Problem
import CliGen.Storage.Path
import CliGen.Text.Ascii
import CliGen.Toml.Reader
import CliGen.Value.Json
import CliGen.Yaml.Reader

/-!
# Input formats

The formats in which command lines are described. All of them are read into the same values.
-/

namespace CliGen

/-- A format of descriptions. -/
inductive InputFormat where
  | yaml
  | toml
  | json
  deriving DecidableEq

namespace InputFormat

def name : InputFormat → String
  | yaml => "yaml"
  | toml => "toml"
  | json => "json"

def parse? : String → Option InputFormat
  | "yaml" => some yaml
  | "toml" => some toml
  | "json" => some json
  | _ => none

/-- The format of a file, told by its extension. -/
def ofPath (path : String) : Outcome InputFormat :=
  match Text.lowerAscii (Path.extension path) with
  | "yaml" | "yml" => .ok yaml
  | "toml" => .ok toml
  | "json" => .ok json
  | other => .error (.unsupportedFormat path other)

/-- Read a text. -/
def read (f : InputFormat) (text : String) : Outcome Value :=
  match f with
  | json =>
    match Json.parse text with
    | .ok v => .ok v
    | .error r => .error (.json r.position.line r.position.column r.fault.message)
  | yaml =>
    match Yaml.parse text with
    | some v => .ok v
    | none => .error .yaml
  | toml =>
    match Toml.parse text with
    | some v => .ok v
    | none => .error .toml

end InputFormat

end CliGen
