import CliGen.Naming
import CliGen.Problem
import CliGen.Template.Basic

/-!
# Helpers and named templates

The helpers that every target shares, and an engine: the helpers and the named templates of one
target. Generated code is never escaped.
-/

namespace CliGen.Template

namespace Helper

/-- A helper of any value. -/
def ofValue (f : Value → String) : Helper
  | v :: _ => some (f v)
  | [] => none

/-- A helper that takes a text only. -/
def ofText (f : String → String) : Helper
  | .str s :: _ => some (f s)
  | _ => none

/-- A helper that takes a truth value only. -/
def ofBool (f : Bool → String) : Helper
  | .bool b :: _ => some (f b)
  | _ => none

/-- A helper that takes a list only. -/
def ofList (f : List Value → String) : Helper
  | .list items :: _ => some (f items)
  | _ => none

/-- The helpers of every target. -/
def shared : Helpers :=
  [("upper_snake", ofText fun s => String.ofList (Text.upper (Naming.identifier s).toList)),
   ("pascal", ofText fun s => Naming.pascal [s]),
   ("json", ofValue Value.compact),
   ("one_line", ofText Text.oneLine),
   ("join", fun
     | .list items :: .str separator :: _ =>
       some (separator.intercalate (items.map Value.display))
     | _ => none)]

end Helper

/-- The helpers and the templates of one target. The last template of a name counts. -/
structure Engine where
  helpers : Helpers
  templates : List (String × Template)

namespace Engine

/-- No templates, and the shared helpers. -/
def basic : Engine := ⟨Helper.shared, []⟩

/-- The engine of a target. -/
def make (helpers : Helpers) (templates : List (String × Template)) : Engine :=
  ⟨helpers ++ Helper.shared, templates.reverse⟩

/-- Add a template, in place of any of the same name. -/
def register (e : Engine) (name : String) (t : Template) : Engine :=
  { e with templates := (name, t) :: e.templates }

/-- Fill in the template of a name with a context. -/
def render (e : Engine) (name : String) (context : Value) : Outcome String :=
  match e.templates.lookup name with
  | none => .error (.templateNotFound name)
  | some t =>
    match fill e.helpers [Scope.outermost context] t with
    | some text => .ok text
    | none => .error (.template s!"Failed to render '{name}'")

end Engine

end CliGen.Template
