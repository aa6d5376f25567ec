import CliGen.Template.Registration

/-!
# The texts of the Rust templates

Line by line, with tags between guillemets. A line that ends with an arrow goes on in the next one.
-/

namespace CliGen.Target.Rust

namespace Texts

/-- The text of `Rust.parameters`. -/
def parameters : List String := [
  "fn args_«var»() -> Vec<Arg> \x7b",
  "    vec![",
  "«#each arguments»",
  "        Arg::new(«rs_str key»)",
  "            .value_name(«rs_str metavar»)",
  "            .help(«rs_str description»)",
  "            .required(«required»)",
  "            .value_parser(«rs_parser this»)«rs_default_call this»,",
  "«/each»",
  "«#each options»",
  "        Arg::new(«rs_str key»)",
  "            .long(«rs_str name»)«#if short»",
  "            .short(«rs_char short»)«/if»",
  "            .help(«rs_str description»)",
  "            .env(«rs_str env»)",
  "            .required(«required»)«#if ../global»",
  "            .global(true)«/if»",
  "            «#if flag».action(ArgAction::SetTrue)«else».value_parser(«rs_parser ↩",
  "this»)«/if»«rs_default_call this»,",
  "«/each»",
  "    ]",
  "\x7d",
  ""]

/-- The text of `Rust.command`. -/
def command : List String := [
  "fn «var»() -> Command \x7b",
  "    Command::new(«rs_str name»)",
  "        .about(«rs_str help»)",
  "        .hide(«hidden»)«#if aliases»",
  "        .visible_aliases(«rs_slice aliases»)«/if»",
  "        .args(args_«var»())",
  "«#each children»",
  "        .subcommand(«var»())",
  "«/each»",
  "\x7d",
  "",
  "«args»fn run_«var»(reg: &HookRegistry, matches: &ArgMatches) -> HookResult \x7b",
  "«#if is_group»",
  "    match matches.subcommand() \x7b",
  "«#each children»",
  "        Some((«rs_str name», sub)) => run_«var»(reg, sub),",
  "«/each»",
  "        _ => dispatch_group(reg, &«rs_slice path», &«rs_slice candidates», matches, «var»),",
  "    \x7d",
  "«else»",
  "    invoke(reg, &«rs_slice path», &«rs_slice candidates», matches)",
  "«/if»",
  "\x7d",
  ""]

/-- The text of `Rust.managed`. -/
def managed : List String := [
  "fn «var»() -> Command \x7b",
  "    Command::new(«rs_str name»)",
  "        .about(«rs_str help»)",
  "        .hide(«hidden»)«#if aliases»",
  "        .visible_aliases(«rs_slice aliases»)«/if»",
  "«#each actions»",
  "        .subcommand(Command::new(«rs_str action»).about(«rs_str help»).args(args_«../var»()))",
  "«/each»",
  "\x7d",
  "",
  "«args»fn run_«var»(reg: &HookRegistry, matches: &ArgMatches) -> HookResult \x7b",
  "    match matches.subcommand() \x7b",
  "«#each actions»",
  "        Some((«rs_str action», sub)) => run_managed(",
  "            reg,",
  "            &«rs_slice ../path»,",
  "            &«rs_slice ../controller_candidates»,",
  "            «rs_str action»,",
  "            &«rs_slice candidates»,",
  "            sub,",
  "        ),",
  "«/each»",
  "        _ => print_help(«var»()),",
  "    \x7d",
  "\x7d",
  ""]

/-- The text of `Rust.stubCommand`. -/
def stubCommand : List String := [
  "/// «one_line description»",
  "pub fn «canonical_name»(invocation: &Invocation<'_>) -> HookResult \x7b",
  "«#each arguments»",
  "    // let «ident»: Option<«rs_type this»> = invocation.value(«rs_str key»);",
  "«/each»",
  "«#each options»",
  "    «#if flag»// let «ident» = invocation.flag(«rs_str key»);«else»// let «ident»: ↩",
  "Option<«rs_type this»> = invocation.value(«rs_str key»);«/if»",
  "«/each»",
  "    println!(\"\x7b\x7d: not implemented yet\", invocation.path.join(\" \"));",
  "    Ok(())",
  "\x7d",
  ""]

/-- The text of `Rust.stubController`. -/
def stubController : List String := [
  "/// «one_line description»",
  "pub struct «controller»;",
  "",
  "impl Controller for «controller» \x7b",
  "«#each actions»",
  "    fn «action»(&self, invocation: &Invocation<'_>) -> HookResult \x7b",
  "        println!(\"\x7b\x7d: not implemented yet\", invocation.path.join(\" \"));",
  "        Ok(())",
  "    \x7d",
  "",
  "«/each»",
  "\x7d",
  ""]

/-- The text of `Rust.program`. -/
def program : List String := [
  "//! «cli_name» command-line interface.",
  "//!",
  "//! Generated by cli-forge. Do not edit this file; implement commands in",
  "//! src/hooks.rs.",
  "",
  "#![allow(dead_code, non_snake_case, unused_imports)]",
  "",
  "mod hooks;",
  "",
  "use clap::builder::PossibleValuesParser;",
  "use clap::\x7bvalue_parser, Arg, ArgAction, ArgMatches, Command\x7d;",
  "use std::collections::HashMap;",
  "use std::fmt;",
  "use std::process::ExitCode;",
  "",
  "pub type HookResult = Result<(), Box<dyn std::error::Error>>;",
  "",
  "/// A command hook",
  "pub type HookFn = fn(&Invocation<'_>) -> HookResult;",
  "",
  "pub const GENERIC_HOOK: &str = «rs_str generic»;",
  "",
  "/// What a hook receives",
  "pub struct Invocation<'a> \x7b",
  "    pub path: &'a [&'a str],",
  "    pub matches: &'a ArgMatches,",
  "\x7d",
  "",
  "impl Invocation<'_> \x7b",
  "    /// A parsed argument or option value",
  "    pub fn value<T: Clone + Send + Sync + 'static>(&self, id: &str) -> Option<T> \x7b",
  "        self.matches.try_get_one::<T>(id).ok().flatten().cloned()",
  "    \x7d",
  "",
  "    pub fn flag(&self, id: &str) -> bool \x7b",
  "        self.value::<bool>(id).unwrap_or(false)",
  "    \x7d",
  "\x7d",
  "",
  "/// Lifecycle hooks of a managed command",
  "pub trait Controller \x7b",
  "    fn start(&self, invocation: &Invocation<'_>) -> HookResult;",
  "    fn stop(&self, invocation: &Invocation<'_>) -> HookResult;",
  "    fn restart(&self, invocation: &Invocation<'_>) -> HookResult;",
  "    fn status(&self, invocation: &Invocation<'_>) -> HookResult;",
  "\x7d",
  "",
  "/// Hooks bound by name",
  "#[derive(Default)]",
  "pub struct HookRegistry \x7b",
  "    callables: HashMap<String, HookFn>,",
  "    controllers: HashMap<String, Box<dyn Controller>>,",
  "\x7d",
  "",
  "impl HookRegistry \x7b",
  "    pub fn callable(&mut self, name: &str, hook: HookFn) -> &mut Self \x7b",
  "        self.callables.insert(name.to_string(), hook);",
  "        self",
  "    \x7d",
  "",
  "    pub fn controller(&mut self, name: &str, controller: impl Controller + 'static) -> &mut ↩",
  "Self \x7b",
  "        self.controllers.insert(name.to_string(), Box::new(controller));",
  "        self",
  "    \x7d",
  "\x7d",
  "",
  "/// No hook is bound for a command",
  "#[derive(Debug)]",
  "pub struct UnboundCommandError \x7b",
  "    pub path: Vec<String>,",
  "    pub tried: Vec<String>,",
  "\x7d",
  "",
  "impl fmt::Display for UnboundCommandError \x7b",
  "    fn fmt(&self, f: &mut fmt::Formatter<'_>) -> fmt::Result \x7b",
  "        write!(",
  "            f,",
  "            \"Command '\x7b\x7d' is not bound (tried: \x7b\x7d)\",",
  "            self.path.join(\" \"),",
  "            self.tried.join(\", \")",
  "        )",
  "    \x7d",
  "\x7d",
  "",
  "impl std::error::Error for UnboundCommandError \x7b\x7d",
  "",
  "fn invoke(reg: &HookRegistry, path: &[&str], candidates: &[&str], matches: &ArgMatches) -> ↩",
  "HookResult \x7b",
  "    let invocation = Invocation \x7b path, matches \x7d;",
  "    for name in candidates \x7b",
  "        if let Some(hook) = reg.callables.get(*name) \x7b",
  "            return hook(&invocation);",
  "        \x7d",
  "    \x7d",
  "    Err(Box::new(UnboundCommandError \x7b",
  "        path: path.iter().map(|s| s.to_string()).collect(),",
  "        tried: candidates.iter().map(|s| s.to_string()).collect(),",
  "    \x7d))",
  "\x7d",
  "",
  "fn run_managed(",
  "    reg: &HookRegistry,",
  "    path: &[&str],",
  "    controllers: &[&str],",
  "    action: &str,",
  "    candidates: &[&str],",
  "    matches: &ArgMatches,",
  ") -> HookResult \x7b",
  "    let mut full = path.to_vec();",
  "    full.push(action);",
  "    let invocation = Invocation \x7b path: &full, matches \x7d;",
  "    for name in controllers \x7b",
  "        if let Some(controller) = reg.controllers.get(*name) \x7b",
  "            return match action \x7b",
  "                \"start\" => controller.start(&invocation),",
  "                \"stop\" => controller.stop(&invocation),",
  "                \"restart\" => controller.restart(&invocation),",
  "                _ => controller.status(&invocation),",
  "            \x7d;",
  "        \x7d",
  "    \x7d",
  "    invoke(reg, &full, candidates, matches)",
  "\x7d",
  "",
  "fn dispatch_group(",
  "    reg: &HookRegistry,",
  "    path: &[&str],",
  "    candidates: &[&str],",
  "    matches: &ArgMatches,",
  "    builder: fn() -> Command,",
  ") -> HookResult \x7b",
  "    for name in candidates \x7b",
  "        if *name != GENERIC_HOOK && reg.callables.contains_key(*name) \x7b",
  "            return invoke(reg, path, &[*name], matches);",
  "        \x7d",
  "    \x7d",
  "    print_help(builder())",
  "\x7d",
  "",
  "fn print_help(mut command: Command) -> HookResult \x7b",
  "    command.print_help()?;",
  "    println!();",
  "    Ok(())",
  "\x7d",
  "",
  "«global_args»fn cli() -> Command \x7b",
  "    Command::new(«rs_str cli_name»)",
  "        .version(«rs_str version»)",
  "        .about(«rs_str description»)",
  "        .args(args_global())",
  "«#each commands»",
  "        .subcommand(«var»())",
  "«/each»",
  "\x7d",
  "",
  "«commands_code»fn main() -> ExitCode \x7b",
  "    let matches = cli().get_matches();",
  "    let mut registry = HookRegistry::default();",
  "    hooks::register(&mut registry);",
  "",
  "    let result = match matches.subcommand() \x7b",
  "«#each commands»",
  "        Some((«rs_str name», sub)) => run_«var»(&registry, sub),",
  "«/each»",
  "        _ => print_help(cli()),",
  "    \x7d;",
  "",
  "    match result \x7b",
  "        Ok(()) => ExitCode::SUCCESS,",
  "        Err(err) => \x7b",
  "            eprintln!(\"\x7b\x7d: \x7berr\x7d\", «rs_str cli_name»);",
  "            if err.is::<UnboundCommandError>() \x7b",
  "                ExitCode::from(2)",
  "            \x7d else \x7b",
  "                ExitCode::FAILURE",
  "            \x7d",
  "        \x7d",
  "    \x7d",
  "\x7d"]

/-- The text of `Rust.hooks`. -/
def hooks : List String := [
  "//! Hook implementations for «cli_name».",
  "//!",
  "//! cli-forge creates this file once and never overwrites it. Each command of",
  "//! the generated CLI calls the first of its candidate names registered below.",
  "",
  "#![allow(unused_imports)]",
  "",
  "use crate::\x7bController, HookRegistry, HookResult, Invocation\x7d;",
  "",
  "pub fn register(registry: &mut HookRegistry) \x7b",
  "«registrations»    // Catch-all for commands without a dedicated hook:",
  "    // registry.callable(«rs_str generic», «generic»);",
  "\x7d",
  "",
  "«stubs»// pub fn «generic»(invocation: &Invocation<'_>) -> HookResult \x7b",
  "//     println!(\"\x7b\x7d\", invocation.path.join(\" \"));",
  "//     Ok(())",
  "// \x7d"]

/-- The text of `Rust.manifest`. -/
def manifest : List String := [
  "[package]",
  "name = «json package»",
  "version = «json crate_version»",
  "description = «json tagline»",
  "edition = \"2021\"",
  "",
  "[[bin]]",
  "name = «json cli_name»",
  "path = \"src/main.rs\"",
  "",
  "[dependencies]",
  "clap = \x7b version = \"4.5\", features = [\"env\"] \x7d"]

/-- The text of `Rust.bootstrap`. -/
def bootstrap : List String := [
  "#!/usr/bin/env bash",
  "# Build and install «cli_name» with cargo.",
  "set -euo pipefail",
  "",
  "cd \"$(dirname \"$0\")\"",
  "",
  "if ! command -v cargo >/dev/null 2>&1; then",
  "    echo \"cargo is required to install «cli_name»\" >&2",
  "    exit 1",
  "fi",
  "",
  "cargo install --path .",
  "echo \"«cli_name» installed. Run '«cli_name» --help' to get started.\""]

end Texts

/-- The texts of the templates by name. -/
def texts : List (String × List String) :=
  [("rust/args", Texts.parameters),
   ("rust/command", Texts.command),
   ("rust/managed", Texts.managed),
   ("rust/stub_command", Texts.stubCommand),
   ("rust/stub_controller", Texts.stubController),
   ("rust/main", Texts.program),
   ("rust/hooks", Texts.hooks),
   ("rust/manifest", Texts.manifest),
   ("rust/setup", Texts.bootstrap)]

end CliGen.Target.Rust
