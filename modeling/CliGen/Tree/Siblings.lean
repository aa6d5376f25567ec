import CliGen.Naming
import CliGen.Tree.Field

/-!
# Siblings

The commands of one container: a mapping from names to bodies, or a list of bodies with names. All
names and aliases of siblings are pairwise different, and so are the identifiers of their names.
-/

namespace CliGen

/-- A command that has not been read: its name and its body. -/
abbrev NamedBody := String × Value

namespace Siblings

open CliGen.Field

/-- The alternative names of the command at a path, each once and without its own name. -/
def readAliases (fields : Fields) (path : List String) : Outcome (List String) := do
  let values := match (fields.get? "aliases").or (fields.get? "alias") with
    | none | some .null => []
    | some (.list items) => items
    | some single => [single]
  values.foldlM (fun kept value =>
    match value with
    | .str name =>
      if !isName name then refuse path s!"invalid alias '{name}'"
      else if path.getLast? == some name || kept.contains name then .ok kept
      else .ok (kept ++ [name])
    | _ => refuse path "aliases must be strings") []

/-- The entries of a container in declaration order. -/
def entries (container : Option Value) (field : String) (parent : List String) :
    Outcome (List NamedBody) :=
  match container with
  | none | some .null => .ok []
  | some (.object fields) => .ok fields
  | some (.list items) => items.mapM fun item =>
    match (item.get? "name").bind Value.str? with
    | some name => .ok (name, item)
    | none => refuse parent s!"entries of '{field}' must be mappings with a 'name'"
  | some v => refuse parent s!"'{field}' must be a mapping or a list, found {v.kind}"

/-- The names and identifiers that the siblings so far have taken. -/
structure Taken where
  /-- Names and aliases. -/
  names : List String
  identifiers : List String

namespace Taken

def none : Taken := ⟨[], []⟩

/-- Take a name or an alias, unless it is taken. -/
def takeName (t : Taken) (path : List String) (name : String) : Outcome Taken :=
  if t.names.contains name then .error (.duplicateCommand path)
  else .ok { t with names := name :: t.names }

/-- Take the identifier of a name, unless it is taken. -/
def takeIdentifier (t : Taken) (path : List String) (name : String) : Outcome Taken :=
  if t.identifiers.contains (Naming.identifier name) then .error (.duplicateCommand path)
  else .ok { t with identifiers := Naming.identifier name :: t.identifiers }

end Taken

/-- Take the name, the identifier and the aliases of one entry. -/
def takeEntry (parent : List String) (taken : Taken) (entry : NamedBody) : Outcome Taken := do
  let (name, body) := entry
  let path := parent ++ [name]
  unless isName name do refuse path s!"invalid command name '{name}'"
  let taken ← (← taken.takeName path name).takeIdentifier path name
  match body with
  | .object fields => (← readAliases fields path).foldlM (·.takeName path) taken
  | _ => return taken

/-- The entries of a container, all different. -/
def collect (container : Option Value) (field : String) (parent : List String) :
    Outcome (List NamedBody) := do
  let found ← entries container field parent
  let _ ← found.foldlM (takeEntry parent) Taken.none
  return found

end Siblings

end CliGen
