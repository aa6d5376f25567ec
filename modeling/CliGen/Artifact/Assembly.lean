import CliGen.Artifact.Basic
import CliGen.Problem
import CliGen.Text.Blank

/-!
# Assembling artifacts

The last checks on the files of a target, and the choice of those that are written where some exist.
-/

namespace CliGen

/-- Refuse a path that is not made of plain segments below the output directory. -/
def validatePath (path : String) : Outcome Unit :=
  let refuse (reason : String) : Outcome Unit := .error (.artifactPath path reason)
  let checkSegment (segment : String) : Outcome Unit :=
    if segment == "" then refuse "path has an empty segment"
    else if segment == "." || segment == ".." then
      refuse "path must not contain '.' or '..' segments"
    else .ok ()
  if path.isEmpty then refuse "path is empty"
  else if path.toList.contains '\\' then refuse "path must use '/' separators"
  else match path.toList with
    | '/' :: _ => refuse "path must be relative"
    | c :: ':' :: _ =>
      if c.utf8Size == 1 then refuse "path must not carry a drive prefix"
      else (Text.splitAt '/' path).forM checkSegment
    | _ => (Text.splitAt '/' path).forM checkSegment

namespace Artifact

/-- Check one file after files with the paths `seen`. -/
def check (seen : List String) (a : Artifact) : Outcome Unit := do
  validatePath a.path
  if seen.contains a.path then .error (.artifactPath a.path "path produced more than once")
  if a.executable && !a.kind.mayBeExecutable then
    .error (.artifactPath a.path s!"{a.kind.name} artifacts cannot be executable")

/-- Check files after files with the paths `seen`, and tell the target of each. -/
def stamp (target : String) (seen : List String) : List Artifact → Outcome (List Artifact)
  | [] => .ok []
  | a :: rest => do
    check seen a
    return a.withMeta "target" target :: (← stamp target (a.path :: seen) rest)

/-- The files of a target: paths are plain and pairwise different, only what users run is
executable, and there are an entry point and a bootstrap script. -/
def assemble (target : String) (artifacts : List Artifact) : Outcome (List Artifact) := do
  let stamped ← stamp target [] artifacts
  unless stamped.any (·.kind = .entryPoint) do
    .error (.render target [] "no entry-point artifact produced" none)
  unless stamped.any (·.kind = .bootstrap) do
    .error (.render target [] "no bootstrap artifact produced" none)
  return stamped

/-- Whether a file is kept back because it exists and belongs to the user. -/
def isKeptBack («exists» : String → Bool) (a : Artifact) : Bool :=
  a.policy = .createIfAbsent && «exists» a.path

end Artifact

/-- Files to write, and the paths of those that are kept back. -/
structure Merged where
  artifacts : List Artifact
  skipped : List String

/-- Keep back what exists and belongs to the user. -/
def Merged.of («exists» : String → Bool) (artifacts : List Artifact) : Merged where
  artifacts := artifacts.filter (!·.isKeptBack «exists»)
  skipped := (artifacts.filter (·.isKeptBack «exists»)).map (·.path)

end CliGen
