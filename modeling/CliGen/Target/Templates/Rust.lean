import CliGen.Template.Pieces

/-!
# Rust templates

The parser and the runner of a command, its hook, and the files of a crate that runs them.
-/

namespace CliGen.Target.Rust

open Template

/-- The parameters of a command. -/
def parameters : Template := [
  text "fn args_", put "var", text "() -> Vec<Arg> \x7b\n",
  text "    vec![\n",
  forEach (field "arguments") [
    text "        Arg::new(", call "rs_str" (field "key"), text ")\n",
    text "            .value_name(", call "rs_str" (field "metavar"), text ")\n",
    text "            .help(", call "rs_str" (field "description"), text ")\n",
    text "            .required(", put "required", text ")\n",
    text "            .value_parser(", call "rs_parser" this, text ")",
    call "rs_default_call" this, text ",\n"],
  forEach (field "options") [
    text "        Arg::new(", call "rs_str" (field "key"), text ")\n",
    text "            .long(", call "rs_str" (field "name"), text ")",
    whenTrue (field "short") [
      text "\n            .short(", call "rs_char" (field "short"), text ")"], text "\n",
    text "            .help(", call "rs_str" (field "description"), text ")\n",
    text "            .env(", call "rs_str" (field "env"), text ")\n",
    text "            .required(", put "required", text ")",
    whenTrue (outer "global") [text "\n            .global(true)"], text "\n",
    text "            ",
    either (field "flag") [text ".action(ArgAction::SetTrue)"] [
      text ".value_parser(", call "rs_parser" this, text ")"], call "rs_default_call" this,
    text ",\n"],
  lines ["    ]", "\x7d", ""]]

/-- A command that is bound to one callable, or has commands below it. -/
def command : Template := [
  text "fn ", put "var", text "() -> Command \x7b\n",
  text "    Command::new(", call "rs_str" (field "name"), text ")\n",
  text "        .about(", call "rs_str" (field "help"), text ")\n",
  text "        .hide(", put "hidden", text ")",
  whenTrue (field "aliases") [
    text "\n        .visible_aliases(", call "rs_slice" (field "aliases"), text ")"], text "\n",
  text "        .args(args_", put "var", text "())\n",
  forEach (field "children") [text "        .subcommand(", put "var", text "())\n"],
  lines ["\x7d", ""],
  put "args", text "fn run_", put "var",
  text "(reg: &HookRegistry, matches: &ArgMatches) -> HookResult \x7b\n",
  either (field "is_group") [
    text "    match matches.subcommand() \x7b\n",
    forEach (field "children") [
      text "        Some((", call "rs_str" (field "name"), text ", sub)) => run_", put "var",
      text "(reg, sub),\n"],
    text "        _ => dispatch_group(reg, &", call "rs_slice" (field "path"), text ", &",
    call "rs_slice" (field "candidates"), text ", matches, ", put "var", text "),\n",
    text "    \x7d\n"] [
    text "    invoke(reg, &", call "rs_slice" (field "path"), text ", &",
    call "rs_slice" (field "candidates"), text ", matches)\n"],
  lines ["\x7d", ""]]

/-- A managed command and its actions. -/
def managed : Template := [
  text "fn ", put "var", text "() -> Command \x7b\n",
  text "    Command::new(", call "rs_str" (field "name"), text ")\n",
  text "        .about(", call "rs_str" (field "help"), text ")\n",
  text "        .hide(", put "hidden", text ")",
  whenTrue (field "aliases") [
    text "\n        .visible_aliases(", call "rs_slice" (field "aliases"), text ")"], text "\n",
  forEach (field "actions") [
    text "        .subcommand(Command::new(", call "rs_str" (field "action"), text ").about(",
    call "rs_str" (field "help"), text ").args(args_", putOuter "var", text "()))\n"],
  lines ["\x7d", ""],
  put "args", text "fn run_", put "var",
  text "(reg: &HookRegistry, matches: &ArgMatches) -> HookResult \x7b\n",
  text "    match matches.subcommand() \x7b\n",
  forEach (field "actions") [
    text "        Some((", call "rs_str" (field "action"), text ", sub)) => run_managed(\n",
    text "            reg,\n",
    text "            &", call "rs_slice" (outer "path"), text ",\n",
    text "            &", call "rs_slice" (outer "controller_candidates"), text ",\n",
    text "            ", call "rs_str" (field "action"), text ",\n",
    text "            &", call "rs_slice" (field "candidates"), text ",\n",
    lines ["            sub,", "        ),"]],
  text "        _ => print_help(", put "var", text "()),\n",
  lines ["    \x7d", "\x7d", ""]]

/-- The hook of a command. -/
def stubCommand : Template := [
  text "/// ", call "one_line" (field "description"), text "\n",
  text "pub fn ", put "canonical_name", text "(invocation: &Invocation<'_>) -> HookResult \x7b\n",
  forEach (field "arguments") [
    text "    // let ", put "ident", text ": Option<", call "rs_type" this,
    text "> = invocation.value(", call "rs_str" (field "key"), text ");\n"],
  forEach (field "options") [
    text "    ",
    either (field "flag") [
      text "// let ", put "ident", text " = invocation.flag(", call "rs_str" (field "key"),
      text ");"] [
      text "// let ", put "ident", text ": Option<", call "rs_type" this,
      text "> = invocation.value(", call "rs_str" (field "key"), text ");"], text "\n"],
  lines [
    "    println!(\"\x7b\x7d: not implemented yet\", invocation.path.join(\" \"));",
    "    Ok(())",
    "\x7d",
    ""]]

/-- The hook of a managed command. -/
def stubController : Template := [
  text "/// ", call "one_line" (field "description"), text "\n",
  text "pub struct ", put "controller", text ";\n",
  text "\n",
  text "impl Controller for ", put "controller", text " \x7b\n",
  forEach (field "actions") [
    text "    fn ", put "action",
    text "(&self, invocation: &Invocation<'_>) -> HookResult \x7b\n",
    lines [
      "        println!(\"\x7b\x7d: not implemented yet\", invocation.path.join(\" \"));",
      "        Ok(())",
      "    \x7d",
      ""]],
  lines ["\x7d", ""]]

/-- The generated program. -/
def program : Template := [
  text "//! ", put "cli_name", text " command-line interface.\n",
  lines [
    "//!",
    "//! Generated by cli-forge. Do not edit this file; implement commands in",
    "//! src/hooks.rs.",
    "",
    "#![allow(dead_code, non_snake_case, unused_imports)]",
    "",
    "mod hooks;",
    "",
    "use clap::builder::PossibleValuesParser;",
    "use clap::\x7bvalue_parser, Arg, ArgAction, ArgMatches, Command\x7d;",
    "use std::collections::HashMap;",
    "use std::fmt;",
    "use std::process::ExitCode;",
    "",
    "pub type HookResult = Result<(), Box<dyn std::error::Error>>;",
    "",
    "/// A command hook",
    "pub type HookFn = fn(&Invocation<'_>) -> HookResult;",
    ""],
  text "pub const GENERIC_HOOK: &str = ", call "rs_str" (field "generic"), text ";\n",
  lines [
    "",
    "/// What a hook receives",
    "pub struct Invocation<'a> \x7b",
    "    pub path: &'a [&'a str],",
    "    pub matches: &'a ArgMatches,",
    "\x7d",
    "",
    "impl Invocation<'_> \x7b",
    "    /// A parsed argument or option value",
    "    pub fn value<T: Clone + Send + Sync + 'static>(&self, id: &str) -> Option<T> \x7b",
    "        self.matches.try_get_one::<T>(id).ok().flatten().cloned()",
    "    \x7d",
    "",
    "    pub fn flag(&self, id: &str) -> bool \x7b",
    "        self.value::<bool>(id).unwrap_or(false)",
    "    \x7d",
    "\x7d",
    "",
    "/// Lifecycle hooks of a managed command",
    "pub trait Controller \x7b",
    "    fn start(&self, invocation: &Invocation<'_>) -> HookResult;",
    "    fn stop(&self, invocation: &Invocation<'_>) -> HookResult;",
    "    fn restart(&self, invocation: &Invocation<'_>) -> HookResult;",
    "    fn status(&self, invocation: &Invocation<'_>) -> HookResult;",
    "\x7d",
    "",
    "/// Hooks bound by name",
    "#[derive(Default)]",
    "pub struct HookRegistry \x7b",
    "    callables: HashMap<String, HookFn>,",
    "    controllers: HashMap<String, Box<dyn Controller>>,",
    "\x7d",
    "",
    "impl HookRegistry \x7b",
    "    pub fn callable(&mut self, name: &str, hook: HookFn) -> &mut Self \x7b",
    "        self.callables.insert(name.to_string(), hook);",
    "        self",
    "    \x7d",
    "",
    "    pub fn controller(&mut self, name: &str, controller: impl Controller + 'static) -> &mut Self \x7b",
    "        self.controllers.insert(name.to_string(), Box::new(controller));",
    "        self",
    "    \x7d",
    "\x7d",
    "",
    "/// No hook is bound for a command",
    "#[derive(Debug)]",
    "pub struct UnboundCommandError \x7b",
    "    pub path: Vec<String>,",
    "    pub tried: Vec<String>,",
    "\x7d",
    "",
    "impl fmt::Display for UnboundCommandError \x7b",
    "    fn fmt(&self, f: &mut fmt::Formatter<'_>) -> fmt::Result \x7b",
    "        write!(",
    "            f,",
    "            \"Command '\x7b\x7d' is not bound (tried: \x7b\x7d)\",",
    "            self.path.join(\" \"),",
    "            self.tried.join(\", \")",
    "        )",
    "    \x7d",
    "\x7d",
    "",
    "impl std::error::Error for UnboundCommandError \x7b\x7d",
    "",
    "fn invoke(reg: &HookRegistry, path: &[&str], candidates: &[&str], matches: &ArgMatches) -> HookResult \x7b",
    "    let invocation = Invocation \x7b path, matches \x7d;",
    "    for name in candidates \x7b",
    "        if let Some(hook) = reg.callables.get(*name) \x7b",
    "            return hook(&invocation);",
    "        \x7d",
    "    \x7d",
    "    Err(Box::new(UnboundCommandError \x7b",
    "        path: path.iter().map(|s| s.to_string()).collect(),",
    "        tried: candidates.iter().map(|s| s.to_string()).collect(),",
    "    \x7d))",
    "\x7d",
    "",
    "fn run_managed(",
    "    reg: &HookRegistry,",
    "    path: &[&str],",
    "    controllers: &[&str],",
    "    action: &str,",
    "    candidates: &[&str],",
    "    matches: &ArgMatches,",
    ") -> HookResult \x7b",
    "    let mut full = path.to_vec();",
    "    full.push(action);",
    "    let invocation = Invocation \x7b path: &full, matches \x7d;",
    "    for name in controllers \x7b",
    "        if let Some(controller) = reg.controllers.get(*name) \x7b",
    "            return match action \x7b",
    "                \"start\" => controller.start(&invocation),",
    "                \"stop\" => controller.stop(&invocation),",
    "                \"restart\" => controller.restart(&invocation),",
    "                _ => controller.status(&invocation),",
    "            \x7d;",
    "        \x7d",
    "    \x7d",
    "    invoke(reg, &full, candidates, matches)",
    "\x7d",
    "",
    "fn dispatch_group(",
    "    reg: &HookRegistry,",
    "    path: &[&str],",
    "    candidates: &[&str],",
    "    matches: &ArgMatches,",
    "    builder: fn() -> Command,",
    ") -> HookResult \x7b",
    "    for name in candidates \x7b",
    "        if *name != GENERIC_HOOK && reg.callables.contains_key(*name) \x7b",
    "            return invoke(reg, path, &[*name], matches);",
    "        \x7d",
    "    \x7d",
    "    print_help(builder())",
    "\x7d",
    "",
    "fn print_help(mut command: Command) -> HookResult \x7b",
    "    command.print_help()?;",
    "    println!();",
    "    Ok(())",
    "\x7d",
    ""],
  put "global_args", text "fn cli() -> Command \x7b\n",
  text "    Command::new(", call "rs_str" (field "cli_name"), text ")\n",
  text "        .version(", call "rs_str" (field "version"), text ")\n",
  text "        .about(", call "rs_str" (field "description"), text ")\n",
  text "        .args(args_global())\n",
  forEach (field "commands") [text "        .subcommand(", put "var", text "())\n"],
  lines ["\x7d", ""],
  put "commands_code", text "fn main() -> ExitCode \x7b\n",
  lines [
    "    let matches = cli().get_matches();",
    "    let mut registry = HookRegistry::default();",
    "    hooks::register(&mut registry);",
    "",
    "    let result = match matches.subcommand() \x7b"],
  forEach (field "commands") [
    text "        Some((", call "rs_str" (field "name"), text ", sub)) => run_", put "var",
    text "(&registry, sub),\n"],
  lines [
    "        _ => print_help(cli()),",
    "    \x7d;",
    "",
    "    match result \x7b",
    "        Ok(()) => ExitCode::SUCCESS,",
    "        Err(err) => \x7b"],
  text "            eprintln!(\"\x7b\x7d: \x7berr\x7d\", ", call "rs_str" (field "cli_name"),
  text ");\n",
  lines [
    "            if err.is::<UnboundCommandError>() \x7b",
    "                ExitCode::from(2)",
    "            \x7d else \x7b",
    "                ExitCode::FAILURE",
    "            \x7d",
    "        \x7d",
    "    \x7d",
    "\x7d"]]

/-- The file that users fill in. -/
def hooks : Template := [
  text "//! Hook implementations for ", put "cli_name", text ".\n",
  lines [
    "//!",
    "//! cli-forge creates this file once and never overwrites it. Each command of",
    "//! the generated CLI calls the first of its candidate names registered below.",
    "",
    "#![allow(unused_imports)]",
    "",
    "use crate::\x7bController, HookRegistry, HookResult, Invocation\x7d;",
    "",
    "pub fn register(registry: &mut HookRegistry) \x7b"],
  put "registrations", text "    // Catch-all for commands without a dedicated hook:\n",
  text "    // registry.callable(", call "rs_str" (field "generic"), text ", ", put "generic",
  text ");\n",
  lines ["\x7d", ""],
  put "stubs", text "// pub fn ", put "generic",
  text "(invocation: &Invocation<'_>) -> HookResult \x7b\n",
  lines [
    "//     println!(\"\x7b\x7d\", invocation.path.join(\" \"));",
    "//     Ok(())",
    "// \x7d"]]

/-- The package manifest. -/
def manifest : Template := [
  text "[package]\n",
  text "name = ", call "json" (field "package"), text "\n",
  text "version = ", call "json" (field "crate_version"), text "\n",
  text "description = ", call "json" (field "tagline"), text "\n",
  lines ["edition = \"2021\"", "", "[[bin]]"],
  text "name = ", call "json" (field "cli_name"), text "\n",
  lines [
    "path = \"src/main.rs\"",
    "",
    "[dependencies]",
    "clap = \x7b version = \"4.5\", features = [\"env\"] \x7d"]]

/-- The script that builds and installs the crate. -/
def bootstrap : Template := [
  text "#!/usr/bin/env bash\n",
  text "# Build and install ", put "cli_name", text " with cargo.\n",
  lines [
    "set -euo pipefail",
    "",
    "cd \"$(dirname \"$0\")\"",
    "",
    "if ! command -v cargo >/dev/null 2>&1; then"],
  text "    echo \"cargo is required to install ", put "cli_name", text "\" >&2\n",
  lines ["    exit 1", "fi", "", "cargo install --path ."],
  text "echo \"", put "cli_name", text " installed. Run '", put "cli_name",
  text " --help' to get started.\"\n"]

/-- The templates by name. -/
def templates : List (String × Template) :=
  [("rust/args", parameters),
   ("rust/command", command),
   ("rust/managed", managed),
   ("rust/stub_command", stubCommand),
   ("rust/stub_controller", stubController),
   ("rust/main", program),
   ("rust/hooks", hooks),
   ("rust/manifest", manifest),
   ("rust/setup", bootstrap)]

end CliGen.Target.Rust
