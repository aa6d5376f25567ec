import CliGen.Template.Pieces

/-!
# TypeScript templates

The hooks and the files of a typed program.
-/

namespace CliGen.Target.JavaScript.Typed

open Template

/-- The generated program. -/
def program : Template := [
  text "#!/usr/bin/env node\n",
  text "// ", put "cli_name", text " command-line interface.\n",
  lines [
    "//",
    "// Generated by cli-forge. Do not edit this file; implement commands in",
    "// src/hooks.ts.",
    "",
    "import \x7b Argument, Command, InvalidArgumentError, Option \x7d from \"commander\";",
    "import * as hooksModule from \"./src/hooks\";",
    "",
    "type Values = Record<string, unknown>;",
    "type Hook = (...params: unknown[]) => unknown;",
    "",
    "const hooks: Record<string, unknown> = \x7b ...hooksModule \x7d;",
    ""],
  text "const GENERIC_HOOK = ", call "js_str" (field "generic"), text ";\n",
  lines [
    "",
    "class UnboundCommandError extends Error \x7b",
    "  readonly commandPath: string[];",
    "  readonly tried: string[];",
    "",
    "  constructor(commandPath: string[], tried: string[]) \x7b",
    "    super(\x60Command '$\x7bcommandPath.join(\" \")\x7d' is not bound (tried: $\x7btried.join(\", \")\x7d)\x60);",
    "    this.name = \"UnboundCommandError\";",
    "    this.commandPath = commandPath;",
    "    this.tried = tried;",
    "  \x7d",
    "\x7d",
    "",
    "function parseInteger(value: string): number \x7b",
    "  const parsed = Number.parseInt(value, 10);",
    "  if (Number.isNaN(parsed) || String(parsed) !== value.trim()) \x7b",
    "    throw new InvalidArgumentError(\"Not an integer.\");",
    "  \x7d",
    "  return parsed;",
    "\x7d",
    "",
    "function parseNumber(value: string): number \x7b",
    "  const parsed = Number(value);",
    "  if (value.trim() === \"\" || Number.isNaN(parsed)) \x7b",
    "    throw new InvalidArgumentError(\"Not a number.\");",
    "  \x7d",
    "  return parsed;",
    "\x7d",
    "",
    "function parseBoolean(value: string): boolean \x7b",
    "  const normalized = value.trim().toLowerCase();",
    "  if ([\"1\", \"true\", \"yes\", \"on\"].includes(normalized)) \x7b",
    "    return true;",
    "  \x7d",
    "  if ([\"0\", \"false\", \"no\", \"off\"].includes(normalized)) \x7b",
    "    return false;",
    "  \x7d",
    "  throw new InvalidArgumentError(\"Not a boolean.\");",
    "\x7d",
    "",
    "function collect(command: Command, args: unknown[], names: string[]): Values \x7b",
    "  const values: Values = \x7b\x7d;",
    "  names.forEach((name, index) => \x7b",
    "    values[name] = args[index];",
    "  \x7d);",
    "  return Object.assign(values, command.optsWithGlobals());",
    "\x7d",
    "",
    "function isClass(value: unknown): value is new () => Record<string, unknown> \x7b",
    "  return typeof value === \"function\" && /^class[\\s\x7b]/.test(Function.prototype.toString.call(value));",
    "\x7d",
    "",
    "async function invoke(commandPath: string[], candidates: string[], values: Values): Promise<unknown> \x7b",
    "  for (const name of candidates) \x7b",
    "    const hook = hooks[name];",
    "    if (typeof hook !== \"function\") \x7b",
    "      continue;",
    "    \x7d",
    "    if (name === GENERIC_HOOK) \x7b",
    "      return (hook as Hook)(commandPath, values);",
    "    \x7d",
    "    return (hook as Hook)(values);",
    "  \x7d",
    "  throw new UnboundCommandError(commandPath, candidates);",
    "\x7d",
    "",
    "async function invokeManaged(",
    "  commandPath: string[],",
    "  controllers: string[],",
    "  action: string,",
    "  candidates: string[],",
    "  values: Values,",
    "): Promise<unknown> \x7b",
    "  for (const name of controllers) \x7b",
    "    const target = hooks[name];",
    "    if (target === undefined) \x7b",
    "      continue;",
    "    \x7d",
    "    const controller = (isClass(target) ? new target() : target) as Record<string, unknown>;",
    "    const method = controller?.[action];",
    "    if (typeof method === \"function\") \x7b",
    "      return (method as Hook).call(controller, values);",
    "    \x7d",
    "  \x7d",
    "  return invoke([...commandPath, action], candidates, values);",
    "\x7d",
    "",
    "async function dispatchGroup(",
    "  command: Command,",
    "  commandPath: string[],",
    "  candidates: string[],",
    "  values: Values,",
    "): Promise<unknown> \x7b",
    "  for (const name of candidates) \x7b",
    "    if (name !== GENERIC_HOOK && typeof hooks[name] === \"function\") \x7b",
    "      return invoke(commandPath, [name], values);",
    "    \x7d",
    "  \x7d",
    "  command.help();",
    "\x7d",
    "",
    "const program = new Command();",
    "program"],
  text "  .name(", call "js_str" (field "cli_name"), text ")\n",
  text "  .description(", call "js_str" (field "description"), text ")\n",
  text "  .version(", call "js_str" (field "version"), text ")\n",
  put "global_params", text ";\n",
  text "\n",
  put "commands_code", text "program.parseAsync(process.argv).catch((error: unknown) => \x7b\n",
  lines [
    "  if (error instanceof UnboundCommandError) \x7b",
    "    console.error(\x60$\x7bprogram.name()\x7d: $\x7berror.message\x7d\x60);",
    "    process.exit(2);",
    "  \x7d",
    "  console.error(error);",
    "  process.exit(1);",
    "\x7d);"]]

/-- The hook of a command. -/
def stubCommand : Template := [
  text "/** ", call "one_line" (field "description"), text " */\n",
  text "export async function ", put "canonical_name", text "(",
  whenTrue (field "destructure") [put "destructure", text ": Values"],
  text "): Promise<void> \x7b\n",
  text "  console.log(\"", put "path_display", text ": not implemented yet\");\n",
  lines ["\x7d", ""]]

/-- The hook of a managed command. -/
def stubController : Template := [
  text "/** ", call "one_line" (field "description"), text " */\n",
  text "export class ", put "controller", text " \x7b\n",
  forEach (field "actions") [
    text "  async ", put "action", text "(values: Values): Promise<void> \x7b\n",
    text "    console.log(\"", putOuter "path_display", text " ", put "action",
    text ": not implemented yet\", values);\n",
    text "  \x7d\n"],
  lines ["\x7d", ""]]

/-- The file that users fill in. -/
def hooks : Template := [
  text "// Hook implementations for ", put "cli_name", text ".\n",
  lines [
    "//",
    "// cli-forge creates this file once and never overwrites it. Each command of",
    "// the generated CLI calls the first of its candidate names exported here.",
    "",
    "export type Values = Record<string, unknown>;",
    ""],
  put "stubs", text "// Catch-all for commands without a dedicated hook:\n",
  text "//\n",
  text "// export async function ", put "generic",
  text "(commandPath: string[], values: Values): Promise<void> \x7b\n",
  lines ["//   console.log(commandPath.join(\" \"), values);", "// \x7d"]]

/-- The package manifest. -/
def manifest : Template := [
  text "\x7b\n",
  text "  \"name\": ", call "js_str" (field "cli_name"), text ",\n",
  text "  \"version\": ", call "js_str" (field "version"), text ",\n",
  text "  \"description\": ", call "js_str" (field "tagline"), text ",\n",
  lines ["  \"main\": \"dist/cli.js\",", "  \"bin\": \x7b"],
  text "    ", call "js_str" (field "cli_name"), text ": \"dist/cli.js\"\n",
  lines [
    "  \x7d,",
    "  \"files\": [\"dist/\"],",
    "  \"scripts\": \x7b",
    "    \"build\": \"tsc\",",
    "    \"prepare\": \"tsc\"",
    "  \x7d,",
    "  \"engines\": \x7b",
    "    \"node\": \">=18\"",
    "  \x7d,",
    "  \"dependencies\": \x7b",
    "    \"commander\": \"^12.1.0\"",
    "  \x7d,",
    "  \"devDependencies\": \x7b",
    "    \"@types/node\": \"^20.14.0\",",
    "    \"typescript\": \"^5.5.0\"",
    "  \x7d",
    "\x7d"]]

/-- What the compiler is told. -/
def compilerSettings : Template := [
  lines [
    "\x7b",
    "  \"compilerOptions\": \x7b",
    "    \"target\": \"ES2020\",",
    "    \"module\": \"commonjs\",",
    "    \"rootDir\": \".\",",
    "    \"outDir\": \"dist\",",
    "    \"strict\": true,",
    "    \"esModuleInterop\": true,",
    "    \"skipLibCheck\": true",
    "  \x7d,",
    "  \"include\": [\"cli.ts\", \"src/**/*.ts\"]",
    "\x7d"]]

/-- The script that builds and installs the package. -/
def bootstrap : Template := [
  text "#!/usr/bin/env bash\n",
  text "# Build ", put "cli_name", text " and link it onto the PATH.\n",
  lines [
    "set -euo pipefail",
    "",
    "cd \"$(dirname \"$0\")\"",
    "",
    "if ! command -v npm >/dev/null 2>&1; then"],
  text "    echo \"npm is required to install ", put "cli_name", text "\" >&2\n",
  lines ["    exit 1", "fi", "", "npm install", "npm run build", "npm link"],
  text "echo \"", put "cli_name", text " installed. Run '", put "cli_name",
  text " --help' to get started.\"\n"]

/-- The templates of typed programs alone by name. -/
def templates : List (String × Template) :=
  [("typescript/cli", program),
   ("typescript/stub_command", stubCommand),
   ("typescript/stub_controller", stubController),
   ("typescript/hooks", hooks),
   ("typescript/package", manifest),
   ("typescript/tsconfig", compilerSettings),
   ("typescript/setup", bootstrap)]

end CliGen.Target.JavaScript.Typed
