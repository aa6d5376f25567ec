/-!
# Artifacts

The files of one target, before any of them is written: path, content, the role of the file and what
is told about it.
-/

namespace CliGen

/-- The role of a file. -/
inductive ArtifactKind where
  /-- The generated program. -/
  | entryPoint
  /-- The script that installs it. -/
  | bootstrap
  /-- The package manifest. -/
  | manifest
  /-- The file that users fill in. -/
  | hookStub
  /-- Anything else. -/
  | support
  deriving DecidableEq

/-- What happens to a file that exists. -/
inductive MergePolicy where
  /-- It is generated again. -/
  | always
  /-- It stays as it is. -/
  | createIfAbsent
  deriving DecidableEq

namespace MergePolicy

def name : MergePolicy → String
  | always => "always"
  | createIfAbsent => "create-if-absent"

end MergePolicy

namespace ArtifactKind

def name : ArtifactKind → String
  | entryPoint => "entry-point"
  | bootstrap => "bootstrap"
  | manifest => "manifest"
  | hookStub => "hook-stub"
  | support => "support"

def parse? : String → Option ArtifactKind
  | "entry-point" => some entryPoint
  | "bootstrap" => some bootstrap
  | "manifest" => some manifest
  | "hook-stub" => some hookStub
  | "support" => some support
  | _ => none

/-- Only what users run may be executable. -/
def mayBeExecutable : ArtifactKind → Bool
  | entryPoint | bootstrap => true
  | _ => false

/-- Hook files belong to the user once they exist. -/
def policy : ArtifactKind → MergePolicy
  | hookStub => .createIfAbsent
  | _ => .always

end ArtifactKind

/-- What is told about a file: keys in ascending order, each once. -/
abbrev Metadata := List (String × String)

namespace Metadata

/-- Set a key. -/
def put (key value : String) : Metadata → Metadata
  | [] => [(key, value)]
  | (k, v) :: rest =>
    if k = key then (k, value) :: rest
    else if key < k then (key, value) :: (k, v) :: rest
    else (k, v) :: put key value rest

end Metadata

/-- One generated file. -/
structure Artifact where
  /-- Relative, with slashes between the segments. -/
  path : String
  content : String
  executable : Bool
  metadata : Metadata
  kind : ArtifactKind
  deriving DecidableEq

namespace Artifact

/-- A file of a component, that is not executable. -/
def make (path content : String) (kind : ArtifactKind) (component : String) : Artifact where
  path := path
  content := content
  executable := false
  metadata := [("component", component), ("kind", kind.name), ("policy", kind.policy.name)]
  kind := kind

/-- The file made executable. -/
def asExecutable (a : Artifact) : Artifact := { a with executable := true }

/-- The file with something told about it. -/
def withMeta (a : Artifact) (key value : String) : Artifact :=
  { a with metadata := a.metadata.put key value }

/-- What happens to the file if it exists. -/
def policy (a : Artifact) : MergePolicy := a.kind.policy

/-- The component of the target that the file belongs to. -/
def component? (a : Artifact) : Option String := a.metadata.lookup "component"

/-- The target that the file was made for. -/
def target? (a : Artifact) : Option String := a.metadata.lookup "target"

end Artifact

end CliGen
