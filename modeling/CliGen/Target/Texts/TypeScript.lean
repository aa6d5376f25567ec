import CliGen.Template.Registration

/-!
# The texts of the TypeScript templates

Line by line, with tags between guillemets. A line that ends with an arrow goes on in the next one.
-/

namespace CliGen.Target.JavaScript.Typed

namespace Texts

/-- The text of `Typed.program`. -/
def program : List String := [
  "#!/usr/bin/env node",
  "// «cli_name» command-line interface.",
  "//",
  "// Generated by cli-forge. Do not edit this file; implement commands in",
  "// src/hooks.ts.",
  "",
  "import \x7b Argument, Command, InvalidArgumentError, Option \x7d from \"commander\";",
  "import * as hooksModule from \"./src/hooks\";",
  "",
  "type Values = Record<string, unknown>;",
  "type Hook = (...params: unknown[]) => unknown;",
  "",
  "const hooks: Record<string, unknown> = \x7b ...hooksModule \x7d;",
  "",
  "const GENERIC_HOOK = «js_str generic»;",
  "",
  "class UnboundCommandError extends Error \x7b",
  "  readonly commandPath: string[];",
  "  readonly tried: string[];",
  "",
  "  constructor(commandPath: string[], tried: string[]) \x7b",
  "    super(`Command '$\x7bcommandPath.join(\" \")\x7d' is not bound (tried: ↩",
  "$\x7btried.join(\", \")\x7d)`);",
  "    this.name = \"UnboundCommandError\";",
  "    this.commandPath = commandPath;",
  "    this.tried = tried;",
  "  \x7d",
  "\x7d",
  "",
  "function parseInteger(value: string): number \x7b",
  "  const parsed = Number.parseInt(value, 10);",
  "  if (Number.isNaN(parsed) || String(parsed) !== value.trim()) \x7b",
  "    throw new InvalidArgumentError(\"Not an integer.\");",
  "  \x7d",
  "  return parsed;",
  "\x7d",
  "",
  "function parseNumber(value: string): number \x7b",
  "  const parsed = Number(value);",
  "  if (value.trim() === \"\" || Number.isNaN(parsed)) \x7b",
  "    throw new InvalidArgumentError(\"Not a number.\");",
  "  \x7d",
  "  return parsed;",
  "\x7d",
  "",
  "function parseBoolean(value: string): boolean \x7b",
  "  const normalized = value.trim().toLowerCase();",
  "  if ([\"1\", \"true\", \"yes\", \"on\"].includes(normalized)) \x7b",
  "    return true;",
  "  \x7d",
  "  if ([\"0\", \"false\", \"no\", \"off\"].includes(normalized)) \x7b",
  "    return false;",
  "  \x7d",
  "  throw new InvalidArgumentError(\"Not a boolean.\");",
  "\x7d",
  "",
  "function collect(command: Command, args: unknown[], names: string[]): Values \x7b",
  "  const values: Values = \x7b\x7d;",
  "  names.forEach((name, index) => \x7b",
  "    values[name] = args[index];",
  "  \x7d);",
  "  return Object.assign(values, command.optsWithGlobals());",
  "\x7d",
  "",
  "function isClass(value: unknown): value is new () => Record<string, unknown> \x7b",
  "  return typeof value === \"function\" && ↩",
  "/^class[\\s\x7b]/.test(Function.prototype.toString.call(value));",
  "\x7d",
  "",
  "async function invoke(commandPath: string[], candidates: string[], values: Values): ↩",
  "Promise<unknown> \x7b",
  "  for (const name of candidates) \x7b",
  "    const hook = hooks[name];",
  "    if (typeof hook !== \"function\") \x7b",
  "      continue;",
  "    \x7d",
  "    if (name === GENERIC_HOOK) \x7b",
  "      return (hook as Hook)(commandPath, values);",
  "    \x7d",
  "    return (hook as Hook)(values);",
  "  \x7d",
  "  throw new UnboundCommandError(commandPath, candidates);",
  "\x7d",
  "",
  "async function invokeManaged(",
  "  commandPath: string[],",
  "  controllers: string[],",
  "  action: string,",
  "  candidates: string[],",
  "  values: Values,",
  "): Promise<unknown> \x7b",
  "  for (const name of controllers) \x7b",
  "    const target = hooks[name];",
  "    if (target === undefined) \x7b",
  "      continue;",
  "    \x7d",
  "    const controller = (isClass(target) ? new target() : target) as Record<string, unknown>;",
  "    const method = controller?.[action];",
  "    if (typeof method === \"function\") \x7b",
  "      return (method as Hook).call(controller, values);",
  "    \x7d",
  "  \x7d",
  "  return invoke([...commandPath, action], candidates, values);",
  "\x7d",
  "",
  "async function dispatchGroup(",
  "  command: Command,",
  "  commandPath: string[],",
  "  candidates: string[],",
  "  values: Values,",
  "): Promise<unknown> \x7b",
  "  for (const name of candidates) \x7b",
  "    if (name !== GENERIC_HOOK && typeof hooks[name] === \"function\") \x7b",
  "      return invoke(commandPath, [name], values);",
  "    \x7d",
  "  \x7d",
  "  command.help();",
  "\x7d",
  "",
  "const program = new Command();",
  "program",
  "  .name(«js_str cli_name»)",
  "  .description(«js_str description»)",
  "  .version(«js_str version»)",
  "«global_params»;",
  "",
  "«commands_code»program.parseAsync(process.argv).catch((error: unknown) => \x7b",
  "  if (error instanceof UnboundCommandError) \x7b",
  "    console.error(`$\x7bprogram.name()\x7d: $\x7berror.message\x7d`);",
  "    process.exit(2);",
  "  \x7d",
  "  console.error(error);",
  "  process.exit(1);",
  "\x7d);"]

/-- The text of `Typed.stubCommand`. -/
def stubCommand : List String := [
  "/** «one_line description» */",
  "export async function «canonical_name»(«#if destructure»«destructure»: Values«/if»): ↩",
  "Promise<void> \x7b",
  "  console.log(\"«path_display»: not implemented yet\");",
  "\x7d",
  ""]

/-- The text of `Typed.stubController`. -/
def stubController : List String := [
  "/** «one_line description» */",
  "export class «controller» \x7b",
  "«#each actions»",
  "  async «action»(values: Values): Promise<void> \x7b",
  "    console.log(\"«../path_display» «action»: not implemented yet\", values);",
  "  \x7d",
  "«/each»",
  "\x7d",
  ""]

/-- The text of `Typed.hooks`. -/
def hooks : List String := [
  "// Hook implementations for «cli_name».",
  "//",
  "// cli-forge creates this file once and never overwrites it. Each command of",
  "// the generated CLI calls the first of its candidate names exported here.",
  "",
  "export type Values = Record<string, unknown>;",
  "",
  "«stubs»// Catch-all for commands without a dedicated hook:",
  "//",
  "// export async function «generic»(commandPath: string[], values: Values): Promise<void> \x7b",
  "//   console.log(commandPath.join(\" \"), values);",
  "// \x7d"]

/-- The text of `Typed.manifest`. -/
def manifest : List String := [
  "\x7b",
  "  \"name\": «js_str cli_name»,",
  "  \"version\": «js_str version»,",
  "  \"description\": «js_str tagline»,",
  "  \"main\": \"dist/cli.js\",",
  "  \"bin\": \x7b",
  "    «js_str cli_name»: \"dist/cli.js\"",
  "  \x7d,",
  "  \"files\": [\"dist/\"],",
  "  \"scripts\": \x7b",
  "    \"build\": \"tsc\",",
  "    \"prepare\": \"tsc\"",
  "  \x7d,",
  "  \"engines\": \x7b",
  "    \"node\": \">=18\"",
  "  \x7d,",
  "  \"dependencies\": \x7b",
  "    \"commander\": \"^12.1.0\"",
  "  \x7d,",
  "  \"devDependencies\": \x7b",
  "    \"@types/node\": \"^20.14.0\",",
  "    \"typescript\": \"^5.5.0\"",
  "  \x7d",
  "\x7d"]

/-- The text of `Typed.compilerSettings`. -/
def compilerSettings : List String := [
  "\x7b",
  "  \"compilerOptions\": \x7b",
  "    \"target\": \"ES2020\",",
  "    \"module\": \"commonjs\",",
  "    \"rootDir\": \".\",",
  "    \"outDir\": \"dist\",",
  "    \"strict\": true,",
  "    \"esModuleInterop\": true,",
  "    \"skipLibCheck\": true",
  "  \x7d,",
  "  \"include\": [\"cli.ts\", \"src/**/*.ts\"]",
  "\x7d"]

/-- The text of `Typed.bootstrap`. -/
def bootstrap : List String := [
  "#!/usr/bin/env bash",
  "# Build «cli_name» and link it onto the PATH.",
  "set -euo pipefail",
  "",
  "cd \"$(dirname \"$0\")\"",
  "",
  "if ! command -v npm >/dev/null 2>&1; then",
  "    echo \"npm is required to install «cli_name»\" >&2",
  "    exit 1",
  "fi",
  "",
  "npm install",
  "npm run build",
  "npm link",
  "echo \"«cli_name» installed. Run '«cli_name» --help' to get started.\""]

end Texts

/-- The texts of the templates of typed programs alone by name. -/
def texts : List (String × List String) :=
  [("typescript/cli", Texts.program),
   ("typescript/stub_command", Texts.stubCommand),
   ("typescript/stub_controller", Texts.stubController),
   ("typescript/hooks", Texts.hooks),
   ("typescript/package", Texts.manifest),
   ("typescript/tsconfig", Texts.compilerSettings),
   ("typescript/setup", Texts.bootstrap)]

end CliGen.Target.JavaScript.Typed
