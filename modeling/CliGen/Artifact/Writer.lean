import CliGen.Artifact.Assembly
import CliGen.Storage.Files

/-!
# Writing artifacts

Each file is prepared as a draft and then put in place at once, so no reader ever meets half a file.
A file that holds the content already is left alone. A file that holds something else is moved away
first if backups are wanted. A dry run tells what would be written and changes nothing.
-/

namespace CliGen

variable {m : Type → Type} [Monad m] [Files m]

/-- An operation on a file as a step that meets a problem when it is refused. -/
def onFile {α : Type} (path operation : String) (step : m (Except SystemError α)) :
    ExceptT Problem m α :=
  ExceptT.mk do return (← step).mapError (Problem.ofFile path operation)

/-- How files are written. -/
structure Writer where
  backup : Bool
  dryRun : Bool
  deriving DecidableEq

/-- What happened to a file. -/
inductive FileOutcome where
  /-- It held the content already. -/
  | unchanged
  /-- It was written, and what it held before was moved away. -/
  | written (backup : Option String)
  deriving DecidableEq

/-- What happened to files, by their paths, or what would happen in a dry run. -/
structure WriteReport where
  files : List (String × FileOutcome)
  dryRun : Bool
  deriving DecidableEq

namespace WriteReport

/-- The paths of the files that were written. -/
def written (r : WriteReport) : List String :=
  r.files.filterMap fun (path, outcome) =>
    match outcome with
    | .written _ => some path
    | .unchanged => none

/-- The paths of the files that held their content already. -/
def unchanged (r : WriteReport) : List String :=
  r.files.filterMap fun (path, outcome) =>
    match outcome with
    | .written _ => none
    | .unchanged => some path

/-- The paths that files were moved to. -/
def backedUp (r : WriteReport) : List String :=
  r.files.filterMap fun (_, outcome) =>
    match outcome with
    | .written backup => backup
    | .unchanged => none

/-- Whether there was nothing to do. -/
def isEmpty (r : WriteReport) : Bool := r.files.isEmpty

end WriteReport

namespace Writer

/-- The path that a file is moved to. -/
def backupPath (path : String) : String := path ++ ".bak"

/-- The bytes of a file, none if there is no such file. -/
def existing (path : String) : ExceptT Problem m (Option ByteArray) :=
  ExceptT.mk do
    match ← Files.read path with
    | .ok bytes => return .ok (some bytes)
    | .error ⟨.notFound, _⟩ => return .ok none
    | .error e => return .error (.ofFile path "read existing file" e)

/-- Finish a draft and put it where a path leads. -/
def finish (draft : Files.Draft m) (path : String) (a : Artifact) : ExceptT Problem m Unit := do
  let draft ← onFile path "write" (Files.fill draft a.content.toUTF8)
  let draft ← if a.executable then
      onFile (Files.draftPath draft) "set permissions" (Files.makeDraftExecutable draft)
    else pure draft
  onFile path "persist" (Files.persist draft path)

/-- Put an artifact where a path leads, below a directory that exists. -/
def replace (directory path : String) (a : Artifact) : ExceptT Problem m Unit := do
  let draft ← onFile directory "create temporary file" (Files.draft directory)
  tryCatch (finish draft path a) fun problem => do
    ExceptT.lift (Files.discard draft)
    throw problem

/-- Write an artifact where a path leads, and move away what stands there if a path to move it to is
given. -/
def install (path : String) (backup : Option String) (a : Artifact) : ExceptT Problem m Unit := do
  match Path.parent? path with
  | none => throw (.io path "resolve parent directory" none)
  | some directory =>
    onFile directory "create directory" (Files.makeDirectories directory)
    if let some backup := backup then
      onFile backup "create backup" (Files.move path backup)
    replace directory path a

/-- Write an artifact where a path leads, unless its content stands there. -/
def writeFile (w : Writer) (path : String) (a : Artifact) : ExceptT Problem m FileOutcome := do
  let found ← existing path
  if found = some a.content.toUTF8 then
    if a.executable && !w.dryRun then
      onFile path "set permissions" (Files.makeExecutable path)
    return .unchanged
  else
    let backup := if found.isSome && w.backup then some (backupPath path) else none
    unless w.dryRun do install path backup a
    return .written backup

/-- Write artifacts below a directory, one after the other. What was written before a problem
stays. -/
def writeAll (w : Writer) (root : String) (artifacts : List Artifact) :
    ExceptT Problem m WriteReport := do
  let files ← artifacts.mapM fun a => do
    MonadExcept.ofExcept (validatePath a.path)
    let path := Path.join root a.path
    return (path, ← w.writeFile path a)
  return ⟨files, w.dryRun⟩

end Writer

end CliGen
