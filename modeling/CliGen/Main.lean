import CliGen.CommandLine.Run

/-!
# The program

Runs the command line on the files of the system.
-/

namespace CliGen

/-- What the system tells of a failure. -/
def SystemError.ofIO (e : IO.Error) : SystemError :=
  let text (code : UInt32) (details : String) : String := s!"{details} (os error {code})"
  match e with
  | .noFileOrDirectory _ code details => ⟨.notFound, text code details⟩
  | .permissionDenied _ code details => ⟨.permissionDenied, text code details⟩
  | .alreadyExists _ code details => ⟨.alreadyExists, text code details⟩
  | .inappropriateType _ code details => ⟨.other, text code details⟩
  | .invalidArgument _ code details => ⟨.other, text code details⟩
  | other => ⟨.other, toString other⟩

/-- An action, with its failure as an answer. -/
def answering {α : Type} (action : IO α) : IO (Except SystemError α) := do
  try return .ok (← action)
  catch e => return .error (.ofIO e)

/-- Read and write for the owner, and for others what is told. -/
def rights (run others : Bool) : IO.FileRight :=
  let shared : IO.AccessRight := ⟨others, false, others && run⟩
  ⟨⟨true, true, run⟩, shared, shared⟩

/-- The files of the system. A draft is a file with a name of its own. -/
instance : Files IO where
  Draft := String
  has path := do
    if path.isEmpty then return false
    ((← IO.currentDir) / path).pathExists
  hasDirectory path := do
    if path.isEmpty then return false
    ((← IO.currentDir) / path).isDir
  read path := answering (IO.FS.readBinFile path)
  write path bytes := answering (IO.FS.writeBinFile path bytes)
  makeDirectories path :=
    if path.isEmpty then return .ok () else answering (IO.FS.createDirAll path)
  move source target := answering (IO.FS.rename source target)
  makeExecutable path := answering (IO.setAccessRights path (rights true true))
  draft directory := answering do
    let path := Path.join directory s!".tmp{← IO.monoNanosNow}"
    IO.FS.withFile path .writeNew fun _ => pure ()
    IO.setAccessRights path (rights false false)
    return path
  draftPath path := path
  fill path bytes := answering do
    IO.FS.writeBinFile path bytes
    return path
  makeDraftExecutable path := answering do
    IO.setAccessRights path (rights true true)
    return path
  persist path target := answering (IO.FS.rename path target)
  discard path := discard (answering (IO.FS.removeFile path))

end CliGen

/-- Run the command line. -/
def main (arguments : List String) : IO UInt32 := do
  let surroundings : CliGen.CommandLine.Surroundings := {
    home := ← IO.getEnv "HOME"
    directory := toString (← IO.currentDir)
    config := ← IO.getEnv CliGen.CommandLine.Invocation.configVariable }
  let result ← CliGen.CommandLine.run surroundings arguments
  IO.print result.output
  if let some failure := result.failure then IO.eprintln failure.report
  return result.code.toUInt32
