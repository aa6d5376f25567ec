import CliGen.Tree.Param
import CliGen.Tree.Siblings

/-!
# Reading a command tree

A tree is read with a list of commands that wait, the next one first: reading one puts its children
in front of the others. Commands that have been read fill numbered slots, parents before children,
so one sweep from the last slot to the first finds the children of each command finished.
-/

namespace CliGen

/-- The `cli` mapping of a document, or else the document itself, if that is a mapping. -/
def cliSection? (document : Value) : Option Fields :=
  match document.get? "cli" with
  | some (.object fields) => some fields
  | _ => document.object?

namespace Build

open CliGen.Field

/-- How a command is bound, standard unless the description tells. -/
def readLifecycle (fields : Fields) (path : List String) : Outcome Lifecycle := do
  match ← text? fields "lifecycle" path with
  | none => return .standard
  | some word =>
    match Lifecycle.parse? word with
    | some l => return l
    | none => refuse path s!"unknown lifecycle '{word}' (expected 'standard' or 'managed')"

/-- A text that has to be there and may not be blank. -/
def required (text : Option String) (key : String) (path : List String) : Outcome String :=
  match text.map Text.trim with
  | none | some "" => refuse path s!"missing '{key}'"
  | some s => .ok s

/-- Read what a command's body says of the command itself. -/
def readCommand (parentPath : List String) (name : String) (body : Value) : Outcome Command := do
  let path := parentPath ++ [name]
  let fields ← match body with
    | .object fields => pure fields
    | v => refuse path s!"command body must be a mapping, found {v.kind}"
  let description ← required (← description? fields path) "desc" path
  let lifecycle ← readLifecycle fields path
  let arguments ← Param.readArguments fields path
  let options ← Param.readOptions fields path
  if let some o := options.find? (Param.isTaken ·.name arguments) then
    refuse path s!"'{o.name}' is declared as both an argument and an option"
  let icon ← text? fields "icon" path
  let aliases ← Siblings.readAliases fields path
  let hidden ← bool? fields "hidden" path
  return {
    name, description, icon, aliases, hidden := hidden.getD false, arguments, options, lifecycle
    parentPath, subcommands := [] }

/-- A command that waits to be read: the slot of the command above it, the names on the way, its
name and its body. -/
structure Waiting where
  parent : Option Nat
  parentPath : List String
  name : String
  body : Value

namespace Waiting

/-- The path of a waiting command. -/
def path (w : Waiting) : List String := w.parentPath ++ [w.name]

/-- The command, without those below it, and the entries of those. -/
def read (limit : Nat) (w : Waiting) : Outcome (Command × List NamedBody) :=
  if limit ≤ w.parentPath.length then .error (.depthLimitExceeded w.path limit)
  else do
    let command ← readCommand w.parentPath w.name w.body
    let below ← Siblings.collect (w.body.get? "subcommands") "subcommands" w.path
    if command.lifecycle.isManaged && !below.isEmpty then
      refuse w.path "managed commands cannot declare subcommands"
    return (command, below)

end Waiting

/-- A command that has been read, and the slots of the commands below it. -/
structure Slot where
  command : Command
  below : List Nat

/-- The commands read so far, and the slots of those at the top. -/
structure Arena where
  slots : Array Slot
  top : List Nat

namespace Arena

def empty : Arena := ⟨#[], []⟩

/-- Fill the next slot, below another one or at the top. -/
def place (a : Arena) (parent : Option Nat) (command : Command) : Arena :=
  let slot := a.slots.size
  let slots := a.slots.push ⟨command, []⟩
  match parent with
  | some p => { a with slots := slots.modify p fun s => { s with below := s.below ++ [slot] } }
  | none => { slots, top := a.top ++ [slot] }

end Arena

/-! ## Reading gets nearer to its end -/

/-- The size of the bodies of some entries. -/
noncomputable abbrev bodySize (entries : List NamedBody) : Nat :=
  (entries.map fun e => sizeOf e.2).sum

/-- The entries of a mapping are smaller than the mapping. -/
theorem bodySize_fields (fields : Fields) : bodySize fields < sizeOf fields := by
  induction fields with
  | nil => simp [bodySize]
  | cons e rest ih =>
    obtain ⟨k, v⟩ := e
    simp only [bodySize, List.map_cons, List.sum_cons, List.cons.sizeOf_spec,
      Prod.mk.sizeOf_spec] at *
    omega

/-- The items of a list are smaller than the list. -/
theorem bodySize_mapM {f : Value → Outcome NamedBody} (hf : ∀ v e, f v = .ok e → e.2 = v)
    {items : List Value} {found : List NamedBody} (h : items.mapM f = .ok found) :
    bodySize found < sizeOf items := by
  induction items generalizing found with
  | nil => cases h; simp [bodySize]
  | cons v rest ih =>
    rw [List.mapM_cons] at h
    cases hv : f v with
    | error p => rw [hv] at h; cases h
    | ok e =>
      cases hr : rest.mapM f with
      | error p => rw [hv, hr] at h; cases h
      | ok more =>
        rw [hv, hr] at h
        cases h
        have := ih hr
        simp only [bodySize, List.map_cons, List.sum_cons, List.cons.sizeOf_spec, hf v e hv] at *
        omega

/-- The entries of a container are smaller than the container. -/
theorem bodySize_entries {container : Option Value} {field : String} {parent : List String}
    {found : List NamedBody} (h : Siblings.entries container field parent = .ok found) :
    bodySize found < sizeOf container := by
  unfold Siblings.entries at h
  split at h
  · cases h; simp [bodySize]
  · cases h; simp [bodySize]
  · cases h
    have := bodySize_fields found
    simp only [Option.some.sizeOf_spec, Value.object.sizeOf_spec]
    omega
  · rename_i items
    have := bodySize_mapM (fun v e he => by
      split at he
      · cases he; rfl
      · cases he) h
    simp only [Option.some.sizeOf_spec, Value.list.sizeOf_spec]
    omega
  · cases h

/-- What is collected are the entries of the container. -/
theorem entries_of_collect {container : Option Value} {field : String} {parent : List String}
    {found : List NamedBody} (h : Siblings.collect container field parent = .ok found) :
    Siblings.entries container field parent = .ok found := by
  unfold Siblings.collect at h
  cases he : Siblings.entries container field parent with
  | error p => rw [he] at h; cases h
  | ok es =>
    rw [he] at h
    simp only [bind, Except.bind] at h
    split at h
    · cases h
    · cases h; rfl

/-- No field is larger than what it belongs to. -/
theorem sizeOf_get? (v : Value) (key : String) : sizeOf (v.get? key) ≤ sizeOf v := by
  cases v with
  | object fields =>
    simp only [Value.get?, Value.object.sizeOf_spec]
    induction fields with
    | nil => simp [Fields.get?]
    | cons e rest ih =>
      obtain ⟨k, v⟩ := e
      simp only [Fields.get?, List.cons.sizeOf_spec, Prod.mk.sizeOf_spec]
      split
      · simp only [Option.some.sizeOf_spec]; omega
      · omega
  | _ => simp [Value.get?]

/-- What is declared below a command is smaller than the command's own body. -/
theorem Waiting.bodySize_read {limit : Nat} {w : Waiting} {command : Command}
    {below : List NamedBody} (h : w.read limit = .ok (command, below)) :
    bodySize below < sizeOf w.body := by
  unfold Waiting.read at h
  split at h
  · cases h
  · simp only [bind, Except.bind] at h
    split at h
    · cases h
    · split at h
      · cases h
      · rename_i es hes
        have hlt := bodySize_entries (entries_of_collect hes)
        have hle := sizeOf_get? w.body "subcommands"
        have : es = below := by
          split at h
          · cases h
          · cases h; rfl
        subst this
        omega

/-! ## From the document to the tree -/

/-- Read the waiting commands and those below them into the next slots. -/
def grow (limit : Nat) : List Waiting → Arena → Outcome Arena
  | [], arena => .ok arena
  | w :: rest, arena =>
    match h : w.read limit with
    | .error p => .error p
    | .ok (command, below) =>
      have := Waiting.bodySize_read h
      grow limit
        (below.map (fun e => ⟨some arena.slots.size, w.path, e.1, e.2⟩) ++ rest)
        (arena.place w.parent command)
termination_by ws => (ws.map fun w => sizeOf w.body).sum
decreasing_by
  simp only [bodySize, List.map_append, List.map_map, Function.comp_def, List.sum_append,
    List.map_cons, List.sum_cons] at *
  omega

/-- Finished commands by slot, the last finished first. -/
abbrev Finished := List (Nat × Command)

/-- Take the command of a slot out of the finished ones. -/
def take (slot : Nat) : Finished → Option (Command × Finished)
  | [] => none
  | (s, c) :: rest =>
    if s = slot then some (c, rest) else (take slot rest).map fun (d, more) => (d, (s, c) :: more)

/-- Take the commands of several slots, in their order. -/
def takeAll (missing : String) : List Nat → Finished → Outcome (List Command × Finished)
  | [], finished => .ok ([], finished)
  | slot :: slots, finished =>
    match take slot finished with
    | none => .error (.internal missing)
    | some (c, finished) => do
      let (cs, finished) ← takeAll missing slots finished
      return (c :: cs, finished)

/-- Finish the command of a slot, whose children are finished. -/
def finish (finished : Finished) (slot : Slot × Nat) : Outcome Finished := do
  let (subcommands, finished) ← takeAll "child assembled out of order" slot.1.below finished
  return (slot.2, { slot.1.command with subcommands }) :: finished

/-- The commands at the top, with all that lies below them. -/
def assemble (arena : Arena) : Outcome (List Command) := do
  let finished ← arena.slots.toList.zipIdx.reverse.foldlM finish []
  let (commands, _) ← takeAll "top-level command missing after assembly" arena.top finished
  return commands

/-- The commands of some entries at the top and below them, `limit` levels at most. -/
def readCommands (limit : Nat) (entries : List NamedBody) : Outcome (List Command) := do
  assemble (← grow limit (entries.map fun e => ⟨none, [], e.1, e.2⟩) Arena.empty)

/-- What a description says of the command line itself. -/
def readHead (fields : Fields) : Outcome CommandTree := do
  let cliName ← required (← text? fields "name" []) "name" []
  unless isName cliName do refuse [] s!"invalid CLI name '{cliName}'"
  let version ← text? fields "version" []
  let tagline ← text? fields "tagline" []
  let description ← text? fields "description" []
  let globalOptions ← Param.readOptions fields []
  return {
    cliName, version := version.getD "0.1.0", tagline := tagline.getD "", description
    globalOptions, commands := [] }

end Build

/-- How many levels of commands a description may have unless it is told otherwise. -/
def defaultMaxDepth : Nat := 16

/-- The tree of a document, with at most `maxDepth` levels of commands, and at least one. -/
def CommandTree.build (maxDepth : Nat) (document : Value) : Outcome CommandTree := do
  let some fields := cliSection? document
    | Field.refuse [] "CLI description must be a mapping"
  let head ← Build.readHead fields
  let entries ← Siblings.collect (fields.get? "commands") "commands" []
  return { head with commands := ← Build.readCommands (max maxDepth 1) entries }

end CliGen
