import CliGen.Storage.Basic

/-!
# Files

`Files` is what a program asks of the system it runs on. `Disk` is the system as a value: a storage,
the directory that relative paths start from, and the faults that are going to strike. On a disk
every operation that may fail first takes the next fault; if that is none, the storage decides.
-/

namespace CliGen

/-- The files that a program works with. Paths are as written. An operation that is refused changes
nothing, but directories along a path may have been made in part. -/
class Files (m : Type → Type) where
  /-- A file under preparation. No path that a program knows leads to it. -/
  Draft : Type
  /-- Whether something stands where a path leads. -/
  has : String → m Bool
  /-- Whether a directory stands where a path leads. -/
  hasDirectory : String → m Bool
  /-- The bytes of a file. -/
  read : String → m (Except SystemError ByteArray)
  /-- Write a file in place. -/
  write : String → ByteArray → m (Except SystemError Unit)
  /-- Make the directories along a path that are missing. -/
  makeDirectories : String → m (Except SystemError Unit)
  /-- Move a file in the place of another. -/
  move : String → String → m (Except SystemError Unit)
  /-- Let everybody run a file. -/
  makeExecutable : String → m (Except SystemError Unit)
  /-- A new empty draft in a directory. -/
  draft : String → m (Except SystemError Draft)
  /-- The path by which the system knows a draft. -/
  draftPath : Draft → String
  /-- Give a draft its content. -/
  fill : Draft → ByteArray → m (Except SystemError Draft)
  /-- Let everybody run the file that a draft becomes. -/
  makeDraftExecutable : Draft → m (Except SystemError Draft)
  /-- Put the file that a draft becomes where a path leads. -/
  persist : Draft → String → m (Except SystemError Unit)
  /-- Give up a draft. -/
  discard : Draft → m Unit

/-- A storage, the directory to work in, and for each of the next operations whether it fails. -/
structure Disk where
  storage : Storage
  directory : Location
  faults : List (Option SystemError)

namespace Disk

/-- The location that a path leads to. -/
def locate (d : Disk) (path : String) : Except SystemError Location :=
  d.storage.locate d.directory path

/-- What stands where a path leads. -/
def get? (d : Disk) (path : String) : Option Entry :=
  match d.locate path with
  | .ok l => d.storage.get? l
  | .error _ => none

/-- Look at something without a chance of failure. -/
def look {α : Type} (f : Disk → α) : StateM Disk α := fun d => (f d, d)

/-- Run an operation, unless the next fault strikes. -/
def perform {α : Type} (operation : Disk → Except SystemError α × Storage) :
    StateM Disk (Except SystemError α) := fun d =>
  let d' := { d with faults := d.faults.tail }
  match d.faults.head? with
  | some (some e) => (.error e, d')
  | _ => ((operation d).1, { d' with storage := (operation d).2 })

/-- Run an operation that changes nothing when it is refused. -/
def attempt {α : Type} (operation : Disk → Except SystemError (α × Storage)) :
    StateM Disk (Except SystemError α) :=
  perform fun d =>
    match operation d with
    | .ok (a, s) => (.ok a, s)
    | .error e => (.error e, d.storage)

/-- Run an operation on the location that a path leads to. -/
def change (path : String) (f : Storage → Location → Except SystemError Storage) :
    StateM Disk (Except SystemError Unit) :=
  attempt fun d => do
    let s ← f d.storage (← d.locate path)
    return ((), s)

/-- A draft on a disk: what it is going to hold, outside of the storage. -/
structure Draft where
  directory : String
  bytes : ByteArray
  mode : Nat

instance : Files (StateM Disk) where
  Draft := Draft
  has path := look fun d => (d.get? path).isSome
  hasDirectory path := look fun d => d.get? path = some .directory
  read path := attempt fun d => do
    let bytes ← d.storage.read (← d.locate path)
    return (bytes, d.storage)
  write path bytes := change path (·.write · bytes)
  makeDirectories path := perform fun d =>
    if path.toList.contains '\x00' then (.error .zeroInName, d.storage)
    else d.storage.makeDirectories (Storage.start d.directory path) (Path.steps path)
  move source target := attempt fun d => do
    let s ← d.storage.move (← d.locate source) (← d.locate target)
    return ((), s)
  makeExecutable path := change path (·.setMode · Storage.executableMode)
  draft directory := attempt fun d =>
    -- Without a directory the draft stands in the one to work in.
    match d.get? (if directory.isEmpty then "." else directory) with
    | some .directory => .ok (⟨directory, .empty, Storage.privateMode⟩, d.storage)
    | some (.file ..) => .error .notADirectory
    | none => .error .notFound
  draftPath draft := Path.join draft.directory ".tmp"
  fill draft bytes := attempt fun d => .ok ({ draft with bytes }, d.storage)
  makeDraftExecutable draft := attempt fun d =>
    .ok ({ draft with mode := Storage.executableMode }, d.storage)
  persist draft path := change path (·.install · draft.bytes draft.mode)
  discard _ := pure ()

end Disk

end CliGen
