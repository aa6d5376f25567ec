import CliGen.Problem
import CliGen.Text.Blank
import CliGen.Value.Basic

/-!
# Fields of a description

Reading one field of a mapping. A null field is an absent one, and a field of another kind is a
problem that names the field and the kind found.
-/

namespace CliGen.Field

/-- Refuse a description at a command path. -/
def refuse {α : Type} (path : List String) (reason : String) : Outcome α :=
  .error (.schema path reason)

/-- A text. -/
def text? (fields : Fields) (key : String) (path : List String) : Outcome (Option String) :=
  match fields.present? key with
  | none => .ok none
  | some (.str s) => .ok (some s)
  | some v => refuse path s!"'{key}' must be a string, found {v.kind}"

/-- A truth value. -/
def bool? (fields : Fields) (key : String) (path : List String) : Outcome (Option Bool) :=
  match fields.present? key with
  | none => .ok none
  | some (.bool b) => .ok (some b)
  | some v => refuse path s!"'{key}' must be a boolean, found {v.kind}"

/-- A list of mappings; none when it is absent. -/
def mappings (fields : Fields) (key : String) (path : List String) : Outcome (List Fields) :=
  match fields.present? key with
  | none => .ok []
  | some (.list items) => items.mapM fun
    | .object entry => .ok entry
    | _ => refuse path s!"entries of '{key}' must be mappings"
  | some v => refuse path s!"'{key}' must be a list, found {v.kind}"

/-- The text of `desc`, or of `description` in its place. -/
def description? (fields : Fields) (path : List String) : Outcome (Option String) := do
  match ← text? fields "desc" path with
  | some s => return some s
  | none => text? fields "description" path

/-- Names begin with an ASCII letter or digit and go on with those, dashes, underscores and
points. -/
def isName (s : String) : Bool :=
  match s.toList with
  | [] => false
  | c :: cs => c.isAlphanum && cs.all fun c => c.isAlphanum || c == '-' || c == '_' || c == '.'

end CliGen.Field
