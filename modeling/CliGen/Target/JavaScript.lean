import CliGen.Target.Emission
import CliGen.Target.Templates.NodeJs
import CliGen.Target.Templates.TypeScript

/-!
# The Node.js and TypeScript targets

Programs that register their commands one after the other. A plain program runs as it is, a typed
one is compiled first; they share the registration of commands and differ in the files around it. A
hook takes one object, from which it picks its parameters by their keys.
-/

namespace CliGen.Target.JavaScript

open Template

/-- Keywords, words with a meaning of their own, and the names that generated code uses for
itself. -/
def reserved : List String :=
  ["arguments", "await", "break", "case", "catch", "class", "const", "continue", "debugger",
   "default", "delete", "do", "else", "enum", "eval", "export", "extends", "false", "finally",
   "for", "function", "if", "implements", "import", "in", "instanceof", "interface", "let", "new",
   "null", "package", "private", "protected", "public", "return", "static", "super", "switch",
   "this", "throw", "true", "try", "typeof", "undefined", "var", "void", "while", "with", "yield",
   "args", "hooks", "program", "values"]

/-! ## Literals -/

/-- The literal of a value. -/
def literal (v : Value) : String := v.compact

/-- The default of a parameter; choices are compared as texts. -/
def defaultOf (param : Value) : String :=
  let default := param.field "default"
  literal (if param.trueAt "has_choices" then .str default.display else default)

/-- The choices of a parameter. -/
def choicesOf (param : Value) : String :=
  literal (.list ((param.itemsAt "choices").map fun v => .str v.display))

/-- How an argument is declared. -/
def argumentSyntax (arg : Value) : String :=
  let name := arg.textAt "name"
  Quoted.quote (if arg.trueAt "required" then "<" ++ name ++ ">" else "[" ++ name ++ "]")

/-- How an option is declared. -/
def optionFlags (option : Value) : String :=
  let name := option.textAt "name"
  let short := match (option.field "short").str? with
    | some c => "-" ++ c ++ ", "
    | none => ""
  let value := if option.trueAt "flag" then "" else " <" ++ name ++ ">"
  Quoted.quote (short ++ "--" ++ name ++ value)

/-- What reads a parameter's value, unless it is a flag or one of some choices. -/
def parserOf (param : Value) : String :=
  if param.trueAt "has_choices" || param.trueAt "flag" then ""
  else match (param.field "type").str? with
    | some "integer" => ".argParser(parseInteger)"
    | some "float" => ".argParser(parseNumber)"
    | some "boolean" => ".argParser(parseBoolean)"
    | _ => ""

/-- The helpers of this target's templates. -/
def helpers : Helpers :=
  [("js_str", Helper.ofValue literal),
   ("js_default", Helper.ofValue defaultOf),
   ("js_choices", Helper.ofValue choicesOf),
   ("arg_syntax", Helper.ofValue argumentSyntax),
   ("option_flags", Helper.ofValue optionFlags),
   ("commander_parser", Helper.ofValue parserOf)]

/-! ## Commands -/

/-- The parameters of a command, arguments first. -/
def parameters (node : Value) : List Value := node.itemsAt "arguments" ++ node.itemsAt "options"

/-- One entry of a pattern: a key, and the identifier where it differs. -/
def patternEntry (param : Value) : String :=
  let key := param.textAt "key"
  let ident := param.textAt "ident"
  if key == ident then key else key ++ ": " ++ ident

/-- The pattern that picks a command's parameters from the object of a hook. -/
def pattern (node : Value) : String :=
  match (parameters node).map patternEntry with
  | [] => ""
  | entries => "\x7b " ++ ", ".intercalate entries ++ " \x7d"

/-- The keys of a command's arguments. -/
def argumentKeys (node : Value) : Value :=
  .list ((node.itemsAt "arguments").map (·.field "key"))

/-- How this target speaks of a command line. -/
def wording : Wording := ⟨.camel, reserved, "program"⟩

/-- Whether the program is compiled before it runs. -/
inductive Dialect where
  | plain
  | typed
  deriving DecidableEq

namespace Dialect

/-- The identifier of the dialect's target. -/
def id : Dialect → String
  | plain => "nodejs"
  | typed => "typescript"

/-- The name of the dialect's target. -/
def displayName : Dialect → String
  | plain => "Node.js (commander)"
  | typed => "TypeScript (commander)"

/-- How a function takes all arguments that are left. -/
def restParameter : Dialect → String
  | plain => "...args"
  | typed => "...args: unknown[]"

/-- The name of a template of the dialect alone. -/
def template (d : Dialect) (name : String) : String := d.id ++ "/" ++ name

/-- The templates of the dialect by name. -/
def templates : Dialect → List (String × Template)
  | plain => sharedTemplates ++ plainTemplates
  | typed => sharedTemplates ++ Typed.templates

/-- The files of the package. -/
def layout (d : Dialect) (_ : CommandTree) : List (String × String) :=
  let sources := match d with
    | plain => [("entry", "cli.js"), ("hooks", "src/hooks.js")]
    | typed => [("entry", "cli.ts"), ("hooks", "src/hooks.ts"), ("tsconfig", "tsconfig.json")]
  sources ++ [("manifest", "package.json"), ("bootstrap", "setup.sh")]

end Dialect

/-- What stands for a command, with its parameters. -/
def commandContext (d : Dialect) (scene : Scene) (c : Command) (b : Hook.Binding) :
    Outcome Value := do
  let node := wording.command scene.tree.cliName c b
  let node := node.extend (.object [
    ("rest_param", .str d.restParameter),
    ("arg_keys", argumentKeys node),
    ("destructure", .str (pattern node))])
  let params ← scene.engine.render "commander/params" node
  return node.extend (.object [("params", .str params)])

/-- The template of a command. -/
def commandTemplate (c : Command) : String :=
  if c.lifecycle.isManaged then "commander/managed"
  else if c.isGroup then "commander/group"
  else "commander/command"

/-- The template of a command's hook and the name that it defines, if it has one. -/
def commandStub (d : Dialect) (c : Command) (b : Hook.Binding) : Option (String × String) :=
  match b.controller with
  | some controller => some (d.template "stub_controller", controller.canonical)
  | none => if c.isGroup then none else some (d.template "stub_command", b.canonical)

/-- The code of a command. -/
def emit (d : Dialect) (scene : Scene) (c : Command) (b : Hook.Binding) (children : List Fragment) :
    Outcome Fragment := do
  let node ← commandContext d scene c b
  let own := (Fragment.empty c.path).push "commands"
    (← scene.engine.render (commandTemplate c) node)
  let own ← match commandStub d c b with
    | some (stub, name) =>
      pure ((own.push "stubs" (← scene.engine.render stub node)).push "exports" s!"  {name},\n")
    | none => pure own
  return own.absorb children

/-! ## Files -/

/-- What stands for the command line, with the code of all commands. -/
def programContext (d : Dialect) (scene : Scene) (fragments : List Fragment) : Outcome Value := do
  let globals : Value :=
    .object [("arguments", .list []), ("options", scene.root.field "global_options")]
  let params ← scene.engine.render "commander/params" globals
  return scene.root.extend (.object [
    ("global_params", .str params),
    ("rest_param", .str d.restParameter),
    ("commands_code", .str (Fragment.join fragments "commands")),
    ("stubs", .str (Fragment.join fragments "stubs")),
    ("exports", .str (Fragment.join fragments "exports"))])

/-- The files from the code of the commands at the top. -/
def compose (d : Dialect) (scene : Scene) (fragments : List Fragment) :
    Outcome (List Artifact) := do
  let root ← programContext d scene fragments
  let file (component template : String) (kind : ArtifactKind) : Outcome Artifact := do
    let path ← pathOf d.layout scene.tree component
    return .make path (← scene.engine.render (d.template template) root) kind component
  let entry ← file "entry" "cli" .entryPoint
  let hooks ← file "hooks" "hooks" .hookStub
  let manifest ← file "manifest" "package" .manifest
  let settings ← match d with
    | .plain => pure []
    | .typed => pure [← file "tsconfig" "tsconfig" .support]
  let bootstrap ← file "bootstrap" "setup" .bootstrap
  let entry := match d with
    | .plain => entry.asExecutable
    | .typed => entry
  return [entry, hooks, manifest] ++ settings ++ [bootstrap.asExecutable]

/-- The target of a dialect. -/
def target (d : Dialect) : Target where
  id := d.id
  displayName := d.displayName
  naming := .camel
  helpers := helpers
  templates := d.templates
  root := wording.root
  layout := d.layout
  emit := emit d
  compose := compose d

end JavaScript

/-- The Node.js target. -/
def nodejs : Target := JavaScript.target .plain

/-- The TypeScript target. -/
def typescript : Target := JavaScript.target .typed

end CliGen.Target
