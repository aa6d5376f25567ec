import CliGen.Template.Pieces

/-!
# JavaScript templates

The registration of a command, which plain and typed programs share, and the files of a plain one.
-/

namespace CliGen.Target.JavaScript

open Template

/-- The arguments and options of a command. -/
def params : Template := [
  forEach (field "arguments") [
    text "  .addArgument(new Argument(", call "arg_syntax" this, text ", ",
    call "js_str" (field "description"), text ")",
    whenTrue (field "has_choices") [text ".choices(", call "js_choices" this, text ")"],
    whenTrue (field "has_default") [text ".default(", call "js_default" this, text ")"],
    call "commander_parser" this, text ")\n"],
  forEach (field "options") [
    text "  .addOption(new Option(", call "option_flags" this, text ", ",
    call "js_str" (field "description"), text ")",
    whenTrue (field "has_choices") [text ".choices(", call "js_choices" this, text ")"],
    whenTrue (field "has_default") [text ".default(", call "js_default" this, text ")"],
    text ".env(", call "js_str" (field "env"), text ")", call "commander_parser" this,
    whenTrue (field "required") [text ".makeOptionMandatory()"], text ")\n"]]

/-- A command that is bound to one callable. -/
def command : Template := [
  text "const ", put "var", text " = ", put "parent_var", text "\n",
  text "  .command(", call "js_str" (field "name"),
  whenTrue (field "hidden") [text ", \x7b hidden: true \x7d"], text ")\n",
  text "  .description(", call "js_str" (field "help"), text ")",
  whenTrue (field "aliases") [text "\n  .aliases(", call "js_str" (field "aliases"), text ")"],
  text "\n",
  put "params", text "  .action(async (", put "rest_param", text ") => \x7b\n",
  text "    await invoke(", call "js_str" (field "path"), text ", ",
  call "js_str" (field "candidates"), text ", collect(", put "var", text ", args, ",
  call "js_str" (field "arg_keys"), text "));\n",
  lines ["  \x7d);", ""]]

/-- A command with commands below it. -/
def group : Template := [
  text "const ", put "var", text " = ", put "parent_var", text "\n",
  text "  .command(", call "js_str" (field "name"),
  whenTrue (field "hidden") [text ", \x7b hidden: true \x7d"], text ")\n",
  text "  .description(", call "js_str" (field "help"), text ")",
  whenTrue (field "aliases") [text "\n  .aliases(", call "js_str" (field "aliases"), text ")"],
  text "\n",
  put "params", text "  .action(async (", put "rest_param", text ") => \x7b\n",
  text "    await dispatchGroup(", put "var", text ", ", call "js_str" (field "path"), text ", ",
  call "js_str" (field "candidates"), text ", collect(", put "var", text ", args, ",
  call "js_str" (field "arg_keys"), text "));\n",
  lines ["  \x7d);", ""]]

/-- A managed command and its actions. -/
def managed : Template := [
  text "const ", put "var", text " = ", put "parent_var", text "\n",
  text "  .command(", call "js_str" (field "name"),
  whenTrue (field "hidden") [text ", \x7b hidden: true \x7d"], text ")\n",
  text "  .description(", call "js_str" (field "help"), text ")",
  whenTrue (field "aliases") [text "\n  .aliases(", call "js_str" (field "aliases"), text ")"],
  text ";\n",
  text "\n",
  forEach (field "actions") [
    text "const ", put "var", text " = ", putOuter "var", text "\n",
    text "  .command(", call "js_str" (field "action"), text ")\n",
    text "  .description(", call "js_str" (field "help"), text ")\n",
    putOuter "params", text "  .action(async (", putOuter "rest_param", text ") => \x7b\n",
    text "    await invokeManaged(", call "js_str" (outer "path"), text ", ",
    call "js_str" (outer "controller_candidates"), text ", ", call "js_str" (field "action"),
    text ", ", call "js_str" (field "candidates"), text ", collect(", put "var", text ", args, ",
    call "js_str" (outer "arg_keys"), text "));\n",
    lines ["  \x7d);", ""]]]

/-- The generated program. -/
def program : Template := [
  text "#!/usr/bin/env node\n",
  text "// ", put "cli_name", text " command-line interface.\n",
  lines [
    "//",
    "// Generated by cli-forge. Do not edit this file; implement commands in",
    "// src/hooks.js.",
    "\"use strict\";",
    "",
    "const \x7b Argument, Command, InvalidArgumentError, Option \x7d = require(\"commander\");",
    "",
    "let hooks = \x7b\x7d;",
    "try \x7b",
    "  hooks = require(\"./src/hooks\");",
    "\x7d catch (error) \x7b",
    "  if (error.code !== \"MODULE_NOT_FOUND\") \x7b",
    "    throw error;",
    "  \x7d",
    "\x7d",
    ""],
  text "const GENERIC_HOOK = ", call "js_str" (field "generic"), text ";\n",
  lines [
    "",
    "class UnboundCommandError extends Error \x7b",
    "  constructor(commandPath, tried) \x7b",
    "    super(\x60Command '$\x7bcommandPath.join(\" \")\x7d' is not bound (tried: $\x7btried.join(\", \")\x7d)\x60);",
    "    this.name = \"UnboundCommandError\";",
    "    this.commandPath = commandPath;",
    "    this.tried = tried;",
    "  \x7d",
    "\x7d",
    "",
    "function parseInteger(value) \x7b",
    "  const parsed = Number.parseInt(value, 10);",
    "  if (Number.isNaN(parsed) || String(parsed) !== value.trim()) \x7b",
    "    throw new InvalidArgumentError(\"Not an integer.\");",
    "  \x7d",
    "  return parsed;",
    "\x7d",
    "",
    "function parseNumber(value) \x7b",
    "  const parsed = Number(value);",
    "  if (value.trim() === \"\" || Number.isNaN(parsed)) \x7b",
    "    throw new InvalidArgumentError(\"Not a number.\");",
    "  \x7d",
    "  return parsed;",
    "\x7d",
    "",
    "function parseBoolean(value) \x7b",
    "  const normalized = value.trim().toLowerCase();",
    "  if ([\"1\", \"true\", \"yes\", \"on\"].includes(normalized)) \x7b",
    "    return true;",
    "  \x7d",
    "  if ([\"0\", \"false\", \"no\", \"off\"].includes(normalized)) \x7b",
    "    return false;",
    "  \x7d",
    "  throw new InvalidArgumentError(\"Not a boolean.\");",
    "\x7d",
    "",
    "function collect(command, args, names) \x7b",
    "  const values = \x7b\x7d;",
    "  names.forEach((name, index) => \x7b",
    "    values[name] = args[index];",
    "  \x7d);",
    "  return Object.assign(values, command.optsWithGlobals());",
    "\x7d",
    "",
    "function isClass(value) \x7b",
    "  return typeof value === \"function\" && /^class[\\s\x7b]/.test(Function.prototype.toString.call(value));",
    "\x7d",
    "",
    "async function invoke(commandPath, candidates, values) \x7b",
    "  for (const name of candidates) \x7b",
    "    const hook = hooks[name];",
    "    if (typeof hook !== \"function\") \x7b",
    "      continue;",
    "    \x7d",
    "    if (name === GENERIC_HOOK) \x7b",
    "      return hook(commandPath, values);",
    "    \x7d",
    "    return hook(values);",
    "  \x7d",
    "  throw new UnboundCommandError(commandPath, candidates);",
    "\x7d",
    "",
    "async function invokeManaged(commandPath, controllers, action, candidates, values) \x7b",
    "  for (const name of controllers) \x7b",
    "    const target = hooks[name];",
    "    if (target === undefined) \x7b",
    "      continue;",
    "    \x7d",
    "    const controller = isClass(target) ? new target() : target;",
    "    if (controller && typeof controller[action] === \"function\") \x7b",
    "      return controller[action](values);",
    "    \x7d",
    "  \x7d",
    "  return invoke([...commandPath, action], candidates, values);",
    "\x7d",
    "",
    "async function dispatchGroup(command, commandPath, candidates, values) \x7b",
    "  for (const name of candidates) \x7b",
    "    if (name !== GENERIC_HOOK && typeof hooks[name] === \"function\") \x7b",
    "      return invoke(commandPath, [name], values);",
    "    \x7d",
    "  \x7d",
    "  command.help();",
    "\x7d",
    "",
    "const program = new Command();",
    "program"],
  text "  .name(", call "js_str" (field "cli_name"), text ")\n",
  text "  .description(", call "js_str" (field "description"), text ")\n",
  text "  .version(", call "js_str" (field "version"), text ")\n",
  put "global_params", text ";\n",
  text "\n",
  put "commands_code", text "program.parseAsync(process.argv).catch((error) => \x7b\n",
  lines [
    "  if (error instanceof UnboundCommandError) \x7b",
    "    console.error(\x60$\x7bprogram.name()\x7d: $\x7berror.message\x7d\x60);",
    "    process.exit(2);",
    "  \x7d",
    "  console.error(error);",
    "  process.exit(1);",
    "\x7d);"]]

/-- The hook of a command. -/
def stubCommand : Template := [
  text "// ", call "one_line" (field "description"), text "\n",
  text "async function ", put "canonical_name", text "(", put "destructure", text ") \x7b\n",
  text "  console.log(\"", put "path_display", text ": not implemented yet\");\n",
  lines ["\x7d", ""]]

/-- The hook of a managed command. -/
def stubController : Template := [
  text "// ", call "one_line" (field "description"), text "\n",
  text "class ", put "controller", text " \x7b\n",
  forEach (field "actions") [
    text "  async ", put "action", text "(values) \x7b\n",
    text "    console.log(\"", putOuter "path_display", text " ", put "action",
    text ": not implemented yet\", values);\n",
    text "  \x7d\n"],
  lines ["\x7d", ""]]

/-- The file that users fill in. -/
def hooks : Template := [
  text "// Hook implementations for ", put "cli_name", text ".\n",
  lines [
    "//",
    "// cli-forge creates this file once and never overwrites it. Each command of",
    "// the generated CLI calls the first of its candidate names exported here.",
    "\"use strict\";",
    ""],
  put "stubs", text "// Catch-all for commands without a dedicated hook:\n",
  text "//\n",
  text "// async function ", put "generic", text "(commandPath, values) \x7b\n",
  lines [
    "//   console.log(commandPath.join(\" \"), values);",
    "// \x7d",
    "",
    "module.exports = \x7b"],
  put "exports", text "\x7d;\n"]

/-- The package manifest. -/
def manifest : Template := [
  text "\x7b\n",
  text "  \"name\": ", call "js_str" (field "cli_name"), text ",\n",
  text "  \"version\": ", call "js_str" (field "version"), text ",\n",
  text "  \"description\": ", call "js_str" (field "tagline"), text ",\n",
  lines ["  \"main\": \"cli.js\",", "  \"bin\": \x7b"],
  text "    ", call "js_str" (field "cli_name"), text ": \"cli.js\"\n",
  lines [
    "  \x7d,",
    "  \"files\": [\"cli.js\", \"src/\"],",
    "  \"engines\": \x7b",
    "    \"node\": \">=18\"",
    "  \x7d,",
    "  \"dependencies\": \x7b",
    "    \"commander\": \"^12.1.0\"",
    "  \x7d",
    "\x7d"]]

/-- The script that installs the package. -/
def bootstrap : Template := [
  text "#!/usr/bin/env bash\n",
  text "# Install ", put "cli_name", text " and link it onto the PATH.\n",
  lines [
    "set -euo pipefail",
    "",
    "cd \"$(dirname \"$0\")\"",
    "",
    "if ! command -v npm >/dev/null 2>&1; then"],
  text "    echo \"npm is required to install ", put "cli_name", text "\" >&2\n",
  lines ["    exit 1", "fi", "", "npm install", "npm link"],
  text "echo \"", put "cli_name", text " installed. Run '", put "cli_name",
  text " --help' to get started.\"\n"]

/-- The templates of plain and typed programs by name. -/
def sharedTemplates : List (String × Template) :=
  [("commander/params", params),
   ("commander/command", command),
   ("commander/group", group),
   ("commander/managed", managed)]

/-- The templates of plain programs alone by name. -/
def plainTemplates : List (String × Template) :=
  [("nodejs/cli", program),
   ("nodejs/stub_command", stubCommand),
   ("nodejs/stub_controller", stubController),
   ("nodejs/hooks", hooks),
   ("nodejs/package", manifest),
   ("nodejs/setup", bootstrap)]

end CliGen.Target.JavaScript
