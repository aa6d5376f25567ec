import CliGen.Text.Blank
import CliGen.Text.Case

/-!
# Names in generated code

A name is cut into words at dashes, underscores, points and blanks, and its words are joined again
the way a target spells its identifiers: `db-migrate` becomes `db_migrate` or `dbMigrate`.
-/

namespace CliGen

namespace Naming

/-- The characters between the words of a name. -/
def isSeparator (c : Char) : Bool := c == '-' || c == '_' || c == '.' || Text.isBlank c

/-- The words of a name, in small letters. -/
def words (name : String) : List String :=
  (Text.words isSeparator name.toList).map fun w => String.ofList (Text.lower w)

/-- The words of a name joined by underscores: names with the same words share an identifier. -/
def identifier (name : String) : String := "_".intercalate (words name)

/-- A word with its first character in its capital form. -/
def capitalize (word : String) : String := String.ofList (Text.capitalize word.toList)

/-- The words of several names, each capitalized. -/
def pascal (names : List String) : String := String.join ((names.flatMap words).map capitalize)

/-- The words of several names joined by underscores. -/
def snake (names : List String) : String := "_".intercalate (names.flatMap words)

/-- The words of a name, all but the first capitalized. -/
def camel (name : String) : String :=
  match words name with
  | [] => ""
  | w :: ws => String.join (w :: ws.map capitalize)

end Naming

/-- How a target spells identifiers. -/
inductive CaseStyle where
  | snake
  | camel
  deriving DecidableEq

namespace CaseStyle

/-- The style's own name. -/
def name : CaseStyle → String
  | snake => "snake"
  | camel => "camel"

end CaseStyle

/-- How a target names what the user's code defines. -/
structure NamingConvention where
  style : CaseStyle
  /-- Stands in front of every callable. -/
  callableMark : String
  /-- The callable that takes every command without one of its own. -/
  generic : String
  /-- Stands behind every controller. -/
  controllerMark : String
  deriving DecidableEq

namespace NamingConvention

/-- `on_db_migrate`. -/
def snake : NamingConvention := ⟨.snake, "on", "on_command_executed", "Controller"⟩

/-- `onDbMigrate`. -/
def camel : NamingConvention := ⟨.camel, "on", "onCommandExecuted", "Controller"⟩

/-- The callable for a run of path segments. -/
def callable (n : NamingConvention) (segments : List String) : String :=
  match n.style with
  | .snake => n.callableMark ++ "_" ++ Naming.snake segments
  | .camel => n.callableMark ++ Naming.pascal segments

/-- The controller for a run of path segments. -/
def controller (n : NamingConvention) (segments : List String) : String :=
  Naming.pascal segments ++ n.controllerMark

/-- The identifier of a parameter. -/
def parameter (n : NamingConvention) (name : String) : String :=
  match n.style with
  | .snake => Naming.identifier name
  | .camel => Naming.camel name

end NamingConvention

end CliGen
