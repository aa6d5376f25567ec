import CliGen.Target.Emission
import CliGen.Target.Templates.Python

/-!
# The Python target

A package whose commands are functions with decorators. Arguments and options reach a hook as
keyword arguments; their identifiers are the same in the decorators, the functions and the hooks.
-/

namespace CliGen.Target.Python

open Template

/-- Keywords, and the two names that generated functions use for themselves. -/
def reserved : List String :=
  ["False", "None", "True", "and", "as", "assert", "async", "await", "break", "class", "continue",
   "def", "del", "elif", "else", "except", "finally", "for", "from", "global", "if", "import",
   "in", "is", "lambda", "nonlocal", "not", "or", "pass", "raise", "return", "try", "while",
   "with", "yield", "ctx", "self"]

/-! ## Literals -/

mutual

/-- The literal of a value. -/
def literal : Value → String
  | .null => "None"
  | .bool b => if b then "True" else "False"
  | .int n => toString n
  | .float x => x.text
  | .str s => Quoted.quote s
  | .list items => "[" ++ ", ".intercalate (literals items) ++ "]"
  | .object fields => "\x7b" ++ ", ".intercalate (entries fields) ++ "\x7d"

/-- The literals of the items of a list. -/
def literals : List Value → List String
  | [] => []
  | v :: rest => literal v :: literals rest

/-- The entries of a dictionary. -/
def entries : List (String × Value) → List String
  | [] => []
  | (k, v) :: rest => (Quoted.quote k ++ ": " ++ literal v) :: entries rest

end

/-- The tuple of some values. -/
def tuple (items : List Value) : String :=
  match literals items with
  | [only] => "(" ++ only ++ ",)"
  | all => "(" ++ ", ".intercalate all ++ ")"

/-- The text that a choice is compared with. -/
def choiceText (v : Value) : Value := .str v.display

/-- The type of a parameter. -/
def typeOf (param : Value) : String :=
  if param.trueAt "flag" then "bool"
  else match (param.field "type").str? with
    | some "integer" => "int"
    | some "float" => "float"
    | some "boolean" => "bool"
    | some "path" => "click.Path()"
    | some "choice" =>
      "click.Choice(" ++ literal (.list ((param.itemsAt "choices").map choiceText)) ++ ")"
    | _ => "str"

/-- The default of a parameter. -/
def defaultOf (param : Value) : String :=
  let default := param.field "default"
  literal (if param.trueAt "has_choices" then choiceText default else default)

/-- What an option is declared as: its short form, its long form and its identifier. -/
def declarations (option : Value) : String :=
  let short := match (option.field "short").str? with
    | some c => [Quoted.quote ("-" ++ c)]
    | none => []
  ", ".intercalate
    (short ++ [Quoted.quote ("--" ++ option.textAt "name"), literal (option.field "ident")])

/-- The helpers of this target's templates. -/
def helpers : Helpers :=
  [("py_str", Helper.ofValue literal),
   ("py_bool", Helper.ofBool fun b => if b then "True" else "False"),
   ("py_tuple", Helper.ofList tuple),
   ("py_default", Helper.ofValue defaultOf),
   ("click_type", Helper.ofValue typeOf),
   ("click_decls", Helper.ofValue declarations)]

/-! ## Commands -/

/-- The parameters of a command, arguments first. -/
def parameters (node : Value) : List Value := node.itemsAt "arguments" ++ node.itemsAt "options"

/-- The parameter list of a function, after some names of its own. -/
def parameterList (own : List String) (node : Value) : String :=
  ", ".intercalate (own ++ (parameters node).filterMap fun p => (p.field "ident").str?)

/-- The keyword arguments of a hook. -/
def keywordArguments (node : Value) : String :=
  let entry (p : Value) := literal (p.field "ident") ++ ": " ++ p.textAt "ident"
  "\x7b" ++ ", ".intercalate ((parameters node).map entry) ++ "\x7d"

/-- How this target speaks of a command line. -/
def wording : Wording := ⟨.snake, reserved, "main"⟩

/-- What stands for a command, with its decorators. -/
def commandContext (scene : Scene) (c : Command) (b : Hook.Binding) : Outcome Value := do
  let node := wording.command scene.tree.cliName c b
  let node := node.extend (.object [
    ("py_params", .str (parameterList [] node)),
    ("py_params_ctx", .str (parameterList ["ctx"] node)),
    ("py_kwargs", .str (keywordArguments node)),
    ("has_globals", .bool !scene.tree.globalOptions.isEmpty)])
  let decorators ← scene.engine.render "python/params" node
  return node.extend (.object [("decorators", .str decorators)])

/-- The templates of a command and of its hook, if it has one. -/
def commandTemplates (c : Command) : String × Option String :=
  if c.lifecycle.isManaged then ("python/managed", some "python/stub_controller")
  else if c.isGroup then ("python/group", none)
  else ("python/command", some "python/stub_command")

/-- The code of a command. -/
def emit (scene : Scene) (c : Command) (b : Hook.Binding) (children : List Fragment) :
    Outcome Fragment := do
  let node ← commandContext scene c b
  let (template, stub) := commandTemplates c
  let own := (Fragment.empty c.path).push "commands" (← scene.engine.render template node)
  let own ← match stub with
    | some stub => pure (own.push "stubs" (← scene.engine.render stub node))
    | none => pure own
  return own.absorb children

/-! ## Files -/

/-- The files of the package. -/
def layout (t : CommandTree) : List (String × String) :=
  let package := t.packageName
  [("entry", s!"src/{package}/cli.py"), ("package_init", s!"src/{package}/__init__.py"),
   ("hooks", s!"src/{package}/cli_hooks.py"), ("manifest", "pyproject.toml"),
   ("bootstrap", "setup.sh")]

/-- What stands for the command line, with the code of all commands. -/
def programContext (scene : Scene) (fragments : List Fragment) : Outcome Value := do
  let globals : Value :=
    .object [("arguments", .list []), ("options", scene.root.field "global_options")]
  let decorators ← scene.engine.render "python/params" globals
  return scene.root.extend (.object [
    ("global_decorators", .str decorators),
    ("global_params", .str (parameterList ["ctx"] globals)),
    ("commands_code", .str (Fragment.join fragments "commands")),
    ("stubs", .str (Fragment.join fragments "stubs"))])

/-- The files from the code of the commands at the top. -/
def compose (scene : Scene) (fragments : List Fragment) : Outcome (List Artifact) := do
  let root ← programContext scene fragments
  let file (component template : String) (kind : ArtifactKind) : Outcome Artifact := do
    let path ← pathOf layout scene.tree component
    return .make path (← scene.engine.render template root) kind component
  return [
    (← file "entry" "python/cli" .entryPoint).asExecutable,
    ← file "package_init" "python/init" .support,
    ← file "hooks" "python/hooks" .hookStub,
    ← file "manifest" "python/pyproject" .manifest,
    (← file "bootstrap" "python/setup" .bootstrap).asExecutable]

end Python

/-- The Python target. -/
def python : Target where
  id := "python"
  displayName := "Python (click)"
  naming := .snake
  helpers := Python.helpers
  templates := Python.templates
  root := Python.wording.root
  layout := Python.layout
  emit := Python.emit
  compose := Python.compose

end CliGen.Target
