import CliGen.Artifact.Writer
import CliGen.Target.Registry

/-!
# Generation

Rendering a tree for several targets, and writing the files of each below a directory of its own. No
target takes notice of the others, so outcomes do not depend on whether targets are rendered one
after the other or at once.
-/

namespace CliGen

/-- What a run is told. -/
structure Settings where
  options : RenderOptions
  parallel : Bool

/-- The files of each target that is asked for, in that order. -/
def Registry.generate (r : Registry) (settings : Settings) (tree : CommandTree)
    (ids : List String) : List (String × Outcome (List Artifact)) :=
  ids.map fun id => (id, r.render tree settings.options id)

/-- What happened to the files of a target. -/
structure Delivery where
  directory : String
  /-- The paths of files that exist and belong to the user. -/
  skipped : List String
  report : WriteReport

variable {m : Type → Type} [Monad m] [Files m]

/-- Keep back what stands below a directory and belongs to the user. -/
def Merged.below (directory : String) (artifacts : List Artifact) : m Merged := do
  let standing ← (artifacts.map (·.path)).filterM fun path => Files.has (Path.join directory path)
  return Merged.of standing.contains artifacts

/-- Write the files of a target below a directory. -/
def Writer.deliver (w : Writer) (directory : String) (artifacts : List Artifact) :
    ExceptT Problem m Delivery := do
  let merged ← ExceptT.lift (Merged.below directory artifacts)
  let report ← w.writeAll directory merged.artifacts
  return ⟨directory, merged.skipped, report⟩

/-- Render a tree for targets, and write the files of each below the directory of its name. A target
whose rendering fails writes nothing. -/
def Registry.deliver (r : Registry) (settings : Settings) (w : Writer) (tree : CommandTree)
    (root : String) (ids : List String) : m (List (String × Outcome Delivery)) :=
  (r.generate settings tree ids).mapM fun (id, outcome) =>
    match outcome with
    | .error problem => return (id, .error problem)
    | .ok artifacts => return (id, ← (w.deliver (Path.join root id) artifacts).run)

end CliGen
