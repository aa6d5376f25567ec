import CliGen.Problem
import CliGen.Storage.Path

/-!
# Storage

What a disk holds: directories, and files with their bytes and their mode, each at a location. There
are no links, so a location leads to one entry only.

Every operation says what the system answers. A refused operation leaves the storage as it was,
except that directories along a path are made as far as they can be; what an operation changes is
told by `get?_put` and `get?_erase`.
-/

namespace CliGen

/-- The names that lead to a place, from the top of the storage. -/
abbrev Location := List String

/-- What stands at a location. -/
inductive Entry where
  | directory
  | file (bytes : ByteArray) (mode : Nat)
  deriving DecidableEq

/-- The entries by location. The top of the storage is a directory without being listed. -/
abbrev Storage := List (Location × Entry)

namespace SystemError

def notFound : SystemError := ⟨.notFound, "No such file or directory (os error 2)"⟩

def alreadyExists : SystemError := ⟨.alreadyExists, "File exists (os error 17)"⟩

def notADirectory : SystemError := ⟨.other, "Not a directory (os error 20)"⟩

def isADirectory : SystemError := ⟨.other, "Is a directory (os error 21)"⟩

def nameTooLong : SystemError := ⟨.other, "File name too long (os error 36)"⟩

def zeroInName : SystemError := ⟨.other, "file name contained an unexpected NUL byte"⟩

def notText : SystemError := ⟨.other, "stream did not contain valid UTF-8"⟩

end SystemError

namespace Storage

/-- The mode of a file that is made by writing to it. -/
def plainMode : Nat := 0o644

/-- The mode of a temporary file, that nobody else may read. -/
def privateMode : Nat := 0o600

/-- The mode of a file that everybody may run. -/
def executableMode : Nat := 0o755

/-- Whether anybody may run a file of a mode. -/
def mayRun (mode : Nat) : Bool := mode &&& 0o111 != 0

/-- What stands at a location. -/
def get? (s : Storage) (l : Location) : Option Entry :=
  if l = [] then some .directory else s.lookup l

/-- Put an entry at a location, in the place of what stood there. -/
def put (l : Location) (e : Entry) (s : Storage) : Storage := (l, e) :: s.filter (·.1 != l)

/-- Remove a location and everything below it. -/
def remove (l : Location) (s : Storage) : Storage := s.filter (!l.isPrefixOf ·.1)

/-- Remove the entry of a location. -/
def erase (l : Location) (s : Storage) : Storage := s.filter (·.1 != l)

/-! ## Following paths -/

/-- The longest name that an entry may have, in bytes. -/
def longestName : Nat := 255

/-- Follow the steps of a path. Every step but the last has to lead to a directory. -/
def follow (s : Storage) : Location → List String → Except SystemError Location
  | l, [] => .ok l
  | l, step :: rest =>
    match s.get? l with
    | none => .error .notFound
    | some (.file ..) => .error .notADirectory
    | some .directory =>
      if Path.isIdle step then follow s l rest
      else if step = ".." then follow s l.dropLast rest
      else if longestName < step.utf8ByteSize then .error .nameTooLong
      else follow s (l ++ [step]) rest

/-- The location that a path starts from, for somebody who works in a directory. -/
def start (directory : Location) (path : String) : Location :=
  if Path.isAbsolute path then [] else directory

/-- The location that a path leads to. -/
def locate (s : Storage) (directory : Location) (path : String) : Except SystemError Location :=
  if path.isEmpty then .error .notFound
  else if path.toList.contains '\x00' then .error .zeroInName
  else s.follow (start directory path) (Path.steps path)

/-! ## Operations on locations -/

/-- The bytes of a file. -/
def read (s : Storage) (l : Location) : Except SystemError ByteArray :=
  match s.get? l with
  | none => .error .notFound
  | some .directory => .error .isADirectory
  | some (.file bytes _) => .ok bytes

/-- Write a file. One that exists keeps its mode. -/
def write (s : Storage) (l : Location) (bytes : ByteArray) : Except SystemError Storage :=
  match s.get? l with
  | none => .ok (s.put l (.file bytes plainMode))
  | some .directory => .error .isADirectory
  | some (.file _ mode) => .ok (s.put l (.file bytes mode))

/-- Put a finished file at a location, where no directory may stand. -/
def install (s : Storage) (l : Location) (bytes : ByteArray) (mode : Nat) :
    Except SystemError Storage :=
  match s.get? l with
  | some .directory => .error .isADirectory
  | _ => .ok (s.put l (.file bytes mode))

/-- Move a file, in the place of a file that stands where it goes. -/
def move (s : Storage) (source target : Location) : Except SystemError Storage :=
  match s.get? source with
  | none => .error .notFound
  | some .directory => .error .isADirectory
  | some (.file bytes mode) => (s.erase source).install target bytes mode

/-- Set the mode of a file. Directories have none to set. -/
def setMode (s : Storage) (l : Location) (mode : Nat) : Except SystemError Storage :=
  match s.get? l with
  | none => .error .notFound
  | some .directory => .ok s
  | some (.file bytes _) => .ok (s.put l (.file bytes mode))

/-- Make the directories along a path that are missing. If one cannot be made, those before it are
made nevertheless. -/
def makeDirectories (s : Storage) : Location → List String → Except SystemError Unit × Storage
  | _, [] => (.ok (), s)
  | l, step :: rest =>
    if Path.isIdle step then makeDirectories s l rest
    else if step = ".." then makeDirectories s l.dropLast rest
    else if longestName < step.utf8ByteSize then (.error .nameTooLong, s)
    else
      match s.get? (l ++ [step]) with
      | none => makeDirectories (s.put (l ++ [step]) .directory) (l ++ [step]) rest
      | some .directory => makeDirectories s (l ++ [step]) rest
      | some (.file ..) =>
        (.error (if rest.all Path.isIdle then .alreadyExists else .notADirectory), s)

/-! ## Laws -/

/-- The top is a directory. -/
theorem get?_top (s : Storage) : s.get? [] = some .directory := by simp [get?]

/-- Nothing stands where everything was taken away. -/
theorem lookup_filter_self (s : Storage) (l : Location) :
    (s.filter (·.1 != l)).lookup l = none := by
  rw [List.lookup_eq_none_iff]
  intro e he
  have h : e.1 ≠ l := by simpa using (List.mem_filter.1 he).2
  simpa using Ne.symm h

/-- Everything else stands where it stood. -/
theorem lookup_filter_of_ne (s : Storage) {l k : Location} (h : k ≠ l) :
    (s.filter (·.1 != l)).lookup k = s.lookup k := by
  induction s with
  | nil => rfl
  | cons e s ih =>
    by_cases hl : e.1 = l
    · have h' : (k == e.1) = false := by simpa [hl] using h
      rw [List.filter_cons_of_neg (by simp [hl]), ih, List.lookup_cons, h']
    · rw [List.filter_cons_of_pos (by simp [hl]), List.lookup_cons, List.lookup_cons, ih]

/-- After an entry is put at a location, it stands there and all else is as before. -/
theorem get?_put (s : Storage) {l : Location} (hl : l ≠ []) (e : Entry) (k : Location) :
    (s.put l e).get? k = if k = l then some e else s.get? k := by
  by_cases h : k = l
  · subst h; simp [get?, put, hl]
  · have h' : (k == l) = false := by simpa using h
    simp [get?, put, List.lookup_cons, h, h', lookup_filter_of_ne s h]

/-- After an entry is erased nothing stands at its location, and all else is as before. -/
theorem get?_erase (s : Storage) {l : Location} (hl : l ≠ []) (k : Location) :
    (s.erase l).get? k = if k = l then none else s.get? k := by
  by_cases h : k = l
  · subst h; simp [get?, erase, hl, lookup_filter_self]
  · simp [get?, erase, h, lookup_filter_of_ne s h]

end Storage

end CliGen
