import CliGen.Template.Registration

/-!
# The texts of the JavaScript templates

Line by line, with tags between guillemets. A line that ends with an arrow goes on in the next one.
-/

namespace CliGen.Target.JavaScript

namespace Texts

/-- The text of `JavaScript.params`. -/
def params : List String := [
  "«#each arguments»",
  "  .addArgument(new Argument(«arg_syntax this», «js_str description»)«#if ↩",
  "has_choices».choices(«js_choices this»)«/if»«#if has_default».default(«js_default ↩",
  "this»)«/if»«commander_parser this»)",
  "«/each»",
  "«#each options»",
  "  .addOption(new Option(«option_flags this», «js_str description»)«#if ↩",
  "has_choices».choices(«js_choices this»)«/if»«#if has_default».default(«js_default ↩",
  "this»)«/if».env(«js_str env»)«commander_parser this»«#if required».makeOptionMandatory()«/if»)",
  "«/each»"]

/-- The text of `JavaScript.command`. -/
def command : List String := [
  "const «var» = «parent_var»",
  "  .command(«js_str name»«#if hidden», \x7b hidden: true \x7d«/if»)",
  "  .description(«js_str help»)«#if aliases»",
  "  .aliases(«js_str aliases»)«/if»",
  "«params»  .action(async («rest_param») => \x7b",
  "    await invoke(«js_str path», «js_str candidates», collect(«var», args, «js_str arg_keys»));",
  "  \x7d);",
  ""]

/-- The text of `JavaScript.group`. -/
def group : List String := [
  "const «var» = «parent_var»",
  "  .command(«js_str name»«#if hidden», \x7b hidden: true \x7d«/if»)",
  "  .description(«js_str help»)«#if aliases»",
  "  .aliases(«js_str aliases»)«/if»",
  "«params»  .action(async («rest_param») => \x7b",
  "    await dispatchGroup(«var», «js_str path», «js_str candidates», collect(«var», args, ↩",
  "«js_str arg_keys»));",
  "  \x7d);",
  ""]

/-- The text of `JavaScript.managed`. -/
def managed : List String := [
  "const «var» = «parent_var»",
  "  .command(«js_str name»«#if hidden», \x7b hidden: true \x7d«/if»)",
  "  .description(«js_str help»)«#if aliases»",
  "  .aliases(«js_str aliases»)«/if»;",
  "",
  "«#each actions»",
  "const «var» = «../var»",
  "  .command(«js_str action»)",
  "  .description(«js_str help»)",
  "«../params»  .action(async («../rest_param») => \x7b",
  "    await invokeManaged(«js_str ../path», «js_str ../controller_candidates», «js_str action», ↩",
  "«js_str candidates», collect(«var», args, «js_str ../arg_keys»));",
  "  \x7d);",
  "",
  "«/each»"]

/-- The text of `JavaScript.program`. -/
def program : List String := [
  "#!/usr/bin/env node",
  "// «cli_name» command-line interface.",
  "//",
  "// Generated by cli-forge. Do not edit this file; implement commands in",
  "// src/hooks.js.",
  "\"use strict\";",
  "",
  "const \x7b Argument, Command, InvalidArgumentError, Option \x7d = require(\"commander\");",
  "",
  "let hooks = \x7b\x7d;",
  "try \x7b",
  "  hooks = require(\"./src/hooks\");",
  "\x7d catch (error) \x7b",
  "  if (error.code !== \"MODULE_NOT_FOUND\") \x7b",
  "    throw error;",
  "  \x7d",
  "\x7d",
  "",
  "const GENERIC_HOOK = «js_str generic»;",
  "",
  "class UnboundCommandError extends Error \x7b",
  "  constructor(commandPath, tried) \x7b",
  "    super(`Command '$\x7bcommandPath.join(\" \")\x7d' is not bound (tried: ↩",
  "$\x7btried.join(\", \")\x7d)`);",
  "    this.name = \"UnboundCommandError\";",
  "    this.commandPath = commandPath;",
  "    this.tried = tried;",
  "  \x7d",
  "\x7d",
  "",
  "function parseInteger(value) \x7b",
  "  const parsed = Number.parseInt(value, 10);",
  "  if (Number.isNaN(parsed) || String(parsed) !== value.trim()) \x7b",
  "    throw new InvalidArgumentError(\"Not an integer.\");",
  "  \x7d",
  "  return parsed;",
  "\x7d",
  "",
  "function parseNumber(value) \x7b",
  "  const parsed = Number(value);",
  "  if (value.trim() === \"\" || Number.isNaN(parsed)) \x7b",
  "    throw new InvalidArgumentError(\"Not a number.\");",
  "  \x7d",
  "  return parsed;",
  "\x7d",
  "",
  "function parseBoolean(value) \x7b",
  "  const normalized = value.trim().toLowerCase();",
  "  if ([\"1\", \"true\", \"yes\", \"on\"].includes(normalized)) \x7b",
  "    return true;",
  "  \x7d",
  "  if ([\"0\", \"false\", \"no\", \"off\"].includes(normalized)) \x7b",
  "    return false;",
  "  \x7d",
  "  throw new InvalidArgumentError(\"Not a boolean.\");",
  "\x7d",
  "",
  "function collect(command, args, names) \x7b",
  "  const values = \x7b\x7d;",
  "  names.forEach((name, index) => \x7b",
  "    values[name] = args[index];",
  "  \x7d);",
  "  return Object.assign(values, command.optsWithGlobals());",
  "\x7d",
  "",
  "function isClass(value) \x7b",
  "  return typeof value === \"function\" && ↩",
  "/^class[\\s\x7b]/.test(Function.prototype.toString.call(value));",
  "\x7d",
  "",
  "async function invoke(commandPath, candidates, values) \x7b",
  "  for (const name of candidates) \x7b",
  "    const hook = hooks[name];",
  "    if (typeof hook !== \"function\") \x7b",
  "      continue;",
  "    \x7d",
  "    if (name === GENERIC_HOOK) \x7b",
  "      return hook(commandPath, values);",
  "    \x7d",
  "    return hook(values);",
  "  \x7d",
  "  throw new UnboundCommandError(commandPath, candidates);",
  "\x7d",
  "",
  "async function invokeManaged(commandPath, controllers, action, candidates, values) \x7b",
  "  for (const name of controllers) \x7b",
  "    const target = hooks[name];",
  "    if (target === undefined) \x7b",
  "      continue;",
  "    \x7d",
  "    const controller = isClass(target) ? new target() : target;",
  "    if (controller && typeof controller[action] === \"function\") \x7b",
  "      return controller[action](values);",
  "    \x7d",
  "  \x7d",
  "  return invoke([...commandPath, action], candidates, values);",
  "\x7d",
  "",
  "async function dispatchGroup(command, commandPath, candidates, values) \x7b",
  "  for (const name of candidates) \x7b",
  "    if (name !== GENERIC_HOOK && typeof hooks[name] === \"function\") \x7b",
  "      return invoke(commandPath, [name], values);",
  "    \x7d",
  "  \x7d",
  "  command.help();",
  "\x7d",
  "",
  "const program = new Command();",
  "program",
  "  .name(«js_str cli_name»)",
  "  .description(«js_str description»)",
  "  .version(«js_str version»)",
  "«global_params»;",
  "",
  "«commands_code»program.parseAsync(process.argv).catch((error) => \x7b",
  "  if (error instanceof UnboundCommandError) \x7b",
  "    console.error(`$\x7bprogram.name()\x7d: $\x7berror.message\x7d`);",
  "    process.exit(2);",
  "  \x7d",
  "  console.error(error);",
  "  process.exit(1);",
  "\x7d);"]

/-- The text of `JavaScript.stubCommand`. -/
def stubCommand : List String := [
  "// «one_line description»",
  "async function «canonical_name»(«destructure») \x7b",
  "  console.log(\"«path_display»: not implemented yet\");",
  "\x7d",
  ""]

/-- The text of `JavaScript.stubController`. -/
def stubController : List String := [
  "// «one_line description»",
  "class «controller» \x7b",
  "«#each actions»",
  "  async «action»(values) \x7b",
  "    console.log(\"«../path_display» «action»: not implemented yet\", values);",
  "  \x7d",
  "«/each»",
  "\x7d",
  ""]

/-- The text of `JavaScript.hooks`. -/
def hooks : List String := [
  "// Hook implementations for «cli_name».",
  "//",
  "// cli-forge creates this file once and never overwrites it. Each command of",
  "// the generated CLI calls the first of its candidate names exported here.",
  "\"use strict\";",
  "",
  "«stubs»// Catch-all for commands without a dedicated hook:",
  "//",
  "// async function «generic»(commandPath, values) \x7b",
  "//   console.log(commandPath.join(\" \"), values);",
  "// \x7d",
  "",
  "module.exports = \x7b",
  "«exports»\x7d;"]

/-- The text of `JavaScript.manifest`. -/
def manifest : List String := [
  "\x7b",
  "  \"name\": «js_str cli_name»,",
  "  \"version\": «js_str version»,",
  "  \"description\": «js_str tagline»,",
  "  \"main\": \"cli.js\",",
  "  \"bin\": \x7b",
  "    «js_str cli_name»: \"cli.js\"",
  "  \x7d,",
  "  \"files\": [\"cli.js\", \"src/\"],",
  "  \"engines\": \x7b",
  "    \"node\": \">=18\"",
  "  \x7d,",
  "  \"dependencies\": \x7b",
  "    \"commander\": \"^12.1.0\"",
  "  \x7d",
  "\x7d"]

/-- The text of `JavaScript.bootstrap`. -/
def bootstrap : List String := [
  "#!/usr/bin/env bash",
  "# Install «cli_name» and link it onto the PATH.",
  "set -euo pipefail",
  "",
  "cd \"$(dirname \"$0\")\"",
  "",
  "if ! command -v npm >/dev/null 2>&1; then",
  "    echo \"npm is required to install «cli_name»\" >&2",
  "    exit 1",
  "fi",
  "",
  "npm install",
  "npm link",
  "echo \"«cli_name» installed. Run '«cli_name» --help' to get started.\""]

end Texts

/-- The texts of the templates of plain and typed programs by name. -/
def sharedTexts : List (String × List String) :=
  [("commander/params", Texts.params),
   ("commander/command", Texts.command),
   ("commander/group", Texts.group),
   ("commander/managed", Texts.managed)]

/-- The texts of the templates of plain programs alone by name. -/
def plainTexts : List (String × List String) :=
  [("nodejs/cli", Texts.program),
   ("nodejs/stub_command", Texts.stubCommand),
   ("nodejs/stub_controller", Texts.stubController),
   ("nodejs/hooks", Texts.hooks),
   ("nodejs/package", Texts.manifest),
   ("nodejs/setup", Texts.bootstrap)]

end CliGen.Target.JavaScript
