import CliGen.Hook.Index
import CliGen.Tree.Basic

/-!
# What templates are filled in with

The value that stands for a command, and the value that stands for the whole command line.
Identifiers in them are usable in the target's language.
-/

namespace CliGen

/-- The variable of a command's parser. The segments hold no double underscore, so different paths
have different variables. -/
def parserVariable (path : List String) : String :=
  "cmd_" ++ "__".intercalate (path.map Naming.identifier)

/-- How a target speaks of a command line. -/
structure Wording where
  naming : NamingConvention
  /-- Words that are no identifiers in the target's language. -/
  reserved : List String
  /-- The variable of the parser of the whole command line. -/
  rootVariable : String

namespace Wording

/-- A parameter's identifier: an underscore goes in front of a digit, and behind a reserved word. -/
def identifier (w : Wording) (name : String) : String :=
  let plain := w.naming.parameter name
  let begun := match plain.toList with
    | [] => "_"
    | c :: _ => if c.isDigit then "_" ++ plain else plain
  if w.reserved.contains begun then begun ++ "_" else begun

/-- The choices of a parameter as a value. -/
def choices (p : Param) : Value := .ofOption (p.choices.map .list)

/-- What stands for an argument. -/
def argument (w : Wording) (a : Argument) : Value :=
  .object [
    ("name", .str a.name),
    ("ident", .str (w.identifier a.name)),
    ("key", .str (w.naming.parameter a.name)),
    ("metavar", .str (String.ofList (Text.upper (Naming.identifier a.name).toList))),
    ("type", .str a.type.name),
    ("description", .str a.description),
    ("required", .bool a.required),
    ("choices", choices a),
    ("has_choices", .bool a.choices.isSome),
    ("default", .ofOption a.default),
    ("has_default", .bool a.default.isSome)]

/-- What stands for an option of the command at a path. -/
def option (w : Wording) (cliName : String) (path : List String) (o : NamedOption) : Value :=
  .object [
    ("name", .str o.name),
    ("ident", .str (w.identifier o.name)),
    ("key", .str (w.naming.parameter o.name)),
    ("type", .str o.type.name),
    ("flag", .bool o.isFlag),
    ("description", .str o.description),
    ("required", .bool o.required),
    ("short", .ofOption (o.short.map fun c => .str (String.singleton c))),
    ("env", .str (o.envVar cliName path)),
    ("choices", choices o.toParam),
    ("has_choices", .bool o.choices.isSome),
    ("default", .ofOption o.default),
    ("has_default", .bool o.default.isSome)]

/-- What stands for a command where only its name matters. -/
def reference (c : Command) : Value :=
  .object [("name", .str c.name), ("var", .str (parserVariable c.path))]

/-- What stands for an action of a managed command. -/
def action (c : Command) (a : Hook.Action) : Value :=
  .object [
    ("action", .str a.name),
    ("var", .str (parserVariable c.path ++ "__" ++ a.name)),
    ("help", .str (Naming.capitalize a.name ++ " " ++ c.name)),
    ("candidates", .strs a.candidates)]

/-- What stands for a command and its binding. -/
def command (w : Wording) (cliName : String) (c : Command) (b : Hook.Binding) : Value :=
  let parent := if c.parentPath.isEmpty then w.rootVariable else parserVariable c.parentPath
  let help := match c.icon with
    | some icon => icon ++ " " ++ c.description
    | none => c.description
  .object [
    ("name", .str c.name),
    ("path", .strs c.path),
    ("path_display", .str (" ".intercalate c.path)),
    ("var", .str (parserVariable c.path)),
    ("parent_var", .str parent),
    ("depth", .int c.depth),
    ("description", .str c.description),
    ("help", .str help),
    ("icon", .ofOption (c.icon.map .str)),
    ("aliases", .strs c.aliases),
    ("hidden", .bool c.hidden),
    ("is_group", .bool c.isGroup),
    ("is_managed", .bool c.lifecycle.isManaged),
    ("is_leaf", .bool c.isLeaf),
    ("arguments", .list (c.arguments.map w.argument)),
    ("options", .list (c.options.map (w.option cliName c.path))),
    ("children", .list (c.subcommands.map reference)),
    ("canonical_name", .str b.canonical),
    ("candidates", .strs b.candidates),
    ("controller", .ofOption (b.controller.map fun k => .str k.canonical)),
    ("controller_candidates", .strs ((b.controller.map (·.candidates)).getD [])),
    ("actions", .list (((b.controller.map (·.actions)).getD []).map (action c))),
    ("generic", .str w.naming.generic)]

/-- What stands for a command line. -/
def root (w : Wording) (t : CommandTree) : Value :=
  .object [
    ("cli_name", .str t.cliName),
    ("package", .str t.packageName),
    ("version", .str t.version),
    ("tagline", .str t.tagline),
    ("description", .str (t.description.getD t.tagline)),
    ("global_options", .list (t.globalOptions.map (w.option t.cliName []))),
    ("commands", .list (t.commands.map reference)),
    ("root_var", .str w.rootVariable),
    ("generic", .str w.naming.generic)]

end Wording

end CliGen
