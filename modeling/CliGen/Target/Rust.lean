import CliGen.Target.Emission
import CliGen.Target.Templates.Rust
import CliGen.Text.Case
import CliGen.Text.InvisibleTable

/-!
# The Rust target

A crate in which every command has a parser and a runner, and hooks are registered by name.
-/

namespace CliGen.Target.Rust

open Template

/-- Keywords, words kept for later, and the name that generated code uses for itself. -/
def reserved : List String :=
  ["as", "async", "await", "break", "const", "continue", "crate", "dyn", "else", "enum", "extern",
   "false", "fn", "for", "if", "impl", "in", "let", "loop", "match", "mod", "move", "mut", "pub",
   "ref", "return", "self", "static", "struct", "super", "trait", "true", "type", "unsafe", "use",
   "where", "while", "abstract", "become", "box", "do", "final", "macro", "override", "priv",
   "try", "typeof", "unsized", "virtual", "yield", "invocation"]

/-! ## Literals -/

/-- The hexadecimal digits of a code point, without zeros in front. -/
def hexDigits (n : Nat) : List Char := Nat.toDigits 16 n

/-- A character between quotes. `quote` is the quotation mark in use. -/
def encodeChar (quote c : Char) : List Char :=
  if c = '\x00' then ['\\', '0']
  else if c = '\t' then ['\\', 't']
  else if c = '\r' then ['\\', 'r']
  else if c = '\n' then ['\\', 'n']
  else if c = '\\' ∨ c = quote then ['\\', c]
  else if c.toNat < 0x20 ∨ c.toNat = 0x7f ∨ Text.inRanges Text.InvisibleTable.ranges c.toNat then
    ['\\', 'u', '\x7b'] ++ hexDigits c.toNat ++ ['\x7d']
  else [c]

/-- The literal of a text. -/
def quoted (s : String) : String :=
  String.ofList ('"' :: s.toList.flatMap (encodeChar '"') ++ ['"'])

/-- The literal of a character. -/
def quotedChar (c : Char) : String :=
  String.ofList ('\'' :: encodeChar '\'' c ++ ['\''])

/-- The literal of the text that a value is read from. -/
def literal (v : Value) : String := quoted v.display

/-- The list of some literals. -/
def slice (items : List Value) : String := "[" ++ ", ".intercalate (items.map literal) ++ "]"

/-- The type of a parameter. -/
def typeOf (param : Value) : String :=
  if param.trueAt "has_choices" then "String"
  else match (param.field "type").str? with
    | some "integer" => "i64"
    | some "float" => "f64"
    | some "boolean" => "bool"
    | some "path" => "std::path::PathBuf"
    | _ => "String"

/-- What reads a parameter's value. -/
def parserOf (param : Value) : String :=
  match param.field "choices" with
  | .list choices => "PossibleValuesParser::new(" ++ slice choices ++ ")"
  | _ => "value_parser!(" ++ typeOf param ++ ")"

/-- The call that sets the default of a parameter, if it has one and is no flag. -/
def defaultCall (param : Value) : String :=
  match param.trueAt "flag", param.field "default" with
  | true, _ | _, .null => ""
  | false, default => "\n            .default_value(" ++ literal default ++ ")"

/-- Whether a text is a number in decimal digits. -/
def isNumber (s : String) : Bool := !s.isEmpty && s.toList.all (·.isDigit)

/-- The version of the crate: the version of the command line, if three numbers stand before its
first dash or plus sign. -/
def crateVersion (version : String) : String :=
  let core := String.ofList (version.toList.takeWhile fun c => c != '-' && c != '+')
  match Text.splitAt '.' core with
  | [major, minor, patch] =>
    if isNumber major && isNumber minor && isNumber patch then version else "0.1.0"
  | _ => "0.1.0"

/-- The helpers of this target's templates. -/
def helpers : Helpers :=
  [("rs_str", Helper.ofValue literal),
   ("rs_char", Helper.ofText fun s => quotedChar (s.toList.head?.getD '?')),
   ("rs_slice", Helper.ofList slice),
   ("rs_parser", Helper.ofValue parserOf),
   ("rs_type", Helper.ofValue typeOf),
   ("rs_default_call", Helper.ofValue defaultCall)]

/-! ## Commands -/

/-- How this target speaks of a command line. -/
def wording : Wording := ⟨.snake, reserved, "cli"⟩

/-- What stands for a command, with its parameters. -/
def commandContext (scene : Scene) (c : Command) (b : Hook.Binding) : Outcome Value := do
  let node := wording.command scene.tree.cliName c b
  let args ← scene.engine.render "rust/args" node
  return node.extend (.object [("args", .str args)])

/-- The line that registers a hook. -/
def registration (method name : String) : String :=
  s!"    registry.{method}({quoted name}, {name});\n"

/-- The template of a command's hook and the line that registers it, if it has one. -/
def commandStub (c : Command) (b : Hook.Binding) : Option (String × String) :=
  match b.controller with
  | some controller =>
    some ("rust/stub_controller", registration "controller" controller.canonical)
  | none =>
    if c.isGroup then none else some ("rust/stub_command", registration "callable" b.canonical)

/-- The code of a command. -/
def emit (scene : Scene) (c : Command) (b : Hook.Binding) (children : List Fragment) :
    Outcome Fragment := do
  let node ← commandContext scene c b
  let template := if b.isManaged then "rust/managed" else "rust/command"
  let own := (Fragment.empty c.path).push "commands" (← scene.engine.render template node)
  let own ← match commandStub c b with
    | some (stub, line) =>
      pure ((own.push "stubs" (← scene.engine.render stub node)).push "registrations" line)
    | none => pure own
  return own.absorb children

/-! ## Files -/

/-- What stands for the command line. -/
def root (t : CommandTree) : Value :=
  (wording.root t).extend (.object [("crate_version", .str (crateVersion t.version))])

/-- The files of the crate. -/
def layout (_ : CommandTree) : List (String × String) :=
  [("entry", "src/main.rs"), ("hooks", "src/hooks.rs"), ("manifest", "Cargo.toml"),
   ("bootstrap", "setup.sh")]

/-- What stands for the command line, with the code of all commands. -/
def programContext (scene : Scene) (fragments : List Fragment) : Outcome Value := do
  let globals : Value := .object [
    ("var", .str "global"), ("global", .bool true), ("arguments", .list []),
    ("options", scene.root.field "global_options")]
  let args ← scene.engine.render "rust/args" globals
  return scene.root.extend (.object [
    ("global_args", .str args),
    ("commands_code", .str (Fragment.join fragments "commands")),
    ("stubs", .str (Fragment.join fragments "stubs")),
    ("registrations", .str (Fragment.join fragments "registrations"))])

/-- The files from the code of the commands at the top. -/
def compose (scene : Scene) (fragments : List Fragment) : Outcome (List Artifact) := do
  let root ← programContext scene fragments
  let file (component template : String) (kind : ArtifactKind) : Outcome Artifact := do
    let path ← pathOf layout scene.tree component
    return .make path (← scene.engine.render template root) kind component
  return [
    ← file "entry" "rust/main" .entryPoint,
    ← file "hooks" "rust/hooks" .hookStub,
    ← file "manifest" "rust/manifest" .manifest,
    (← file "bootstrap" "rust/setup" .bootstrap).asExecutable]

end Rust

/-- The Rust target. -/
def rust : Target where
  id := "rust"
  displayName := "Rust (clap)"
  naming := .snake
  helpers := Rust.helpers
  templates := Rust.templates
  root := Rust.root
  layout := Rust.layout
  emit := Rust.emit
  compose := Rust.compose

end CliGen.Target
