import CliGen.Template.Registration

/-!
# The texts of the Python templates

Line by line, with tags between guillemets. A line that ends with an arrow goes on in the next one.
-/

namespace CliGen.Target.Python

namespace Texts

/-- The text of `Python.params`. -/
def params : List String := [
  "«#each arguments»",
  "@click.argument(«py_str ident», metavar=«py_str metavar», type=«click_type this», ↩",
  "required=«py_bool required»«#if has_default», default=«py_default this»«/if»)",
  "«/each»",
  "«#each options»",
  "@click.option(«click_decls this», type=«click_type this»«#if flag», is_flag=True«/if»«#if ↩",
  "has_default», default=«py_default this», show_default=True«/if», required=«py_bool required», ↩",
  "envvar=«py_str env», help=«py_str description»)",
  "«/each»"]

/-- The text of `Python.command`. -/
def command : List String := [
  "@«parent_var».command(«py_str name»«#if hidden», hidden=True«/if», help=«py_str help»)",
  "«decorators»def «var»(«py_params»):",
  "    «py_str description»",
  "    _invoke(«py_tuple path», «py_str candidates», «py_kwargs»)",
  "«#each aliases»",
  "«../parent_var».aliases[«py_str this»] = «py_str ../name»",
  "«/each»",
  "",
  ""]

/-- The text of `Python.group`. -/
def group : List String := [
  "@«parent_var».group(«py_str name», cls=_ForgeGroup, invoke_without_command=True«#if hidden», ↩",
  "hidden=True«/if», help=«py_str help»)",
  "«decorators»@click.pass_context",
  "def «var»(«py_params_ctx»):",
  "    «py_str description»",
  "    if ctx.invoked_subcommand is None:",
  "        _dispatch_group(ctx, «py_tuple path», «py_str candidates», «py_kwargs»)",
  "«#each aliases»",
  "«../parent_var».aliases[«py_str this»] = «py_str ../name»",
  "«/each»",
  "",
  ""]

/-- The text of `Python.managed`. -/
def managed : List String := [
  "@«parent_var».group(«py_str name», cls=_ForgeGroup«#if hidden», hidden=True«/if», ↩",
  "help=«py_str help»)",
  "def «var»():",
  "    «py_str description»",
  "«#each aliases»",
  "«../parent_var».aliases[«py_str this»] = «py_str ../name»",
  "«/each»",
  "",
  "",
  "«#each actions»",
  "@«../var».command(«py_str action», help=«py_str help»)",
  "«../decorators»def «var»(«../py_params»):",
  "    _invoke_managed(«py_tuple ../path», «py_str ../controller_candidates», «py_str action», ↩",
  "«py_str candidates», «../py_kwargs»)",
  "",
  "",
  "«/each»"]

/-- The text of `Python.stubCommand`. -/
def stubCommand : List String := [
  "def «canonical_name»(«py_params»«#if has_globals»«#if py_params», «/if»**_globals«/if»):",
  "    «py_str description»",
  "    click.echo(\"«path_display»: not implemented yet\")",
  "",
  ""]

/-- The text of `Python.stubController`. -/
def stubController : List String := [
  "class «controller»:",
  "    «py_str description»",
  "«#each actions»",
  "",
  "    def «action»(self«#if ../py_params», «../py_params»«/if»«#if ../has_globals», ↩",
  "**_globals«/if»):",
  "        click.echo(\"«../path_display» «action»: not implemented yet\")",
  "«/each»",
  "",
  ""]

/-- The text of `Python.program`. -/
def program : List String := [
  "#!/usr/bin/env python3",
  "# «cli_name» command-line interface.",
  "#",
  "# Generated by cli-forge. Do not edit this file; implement commands in",
  "# cli_hooks.py next to it.",
  "",
  "import click",
  "",
  "try:",
  "    from . import cli_hooks as _hooks",
  "except ImportError:",
  "    try:",
  "        import cli_hooks as _hooks",
  "    except ImportError:",
  "        _hooks = None",
  "",
  "GENERIC_HOOK = «py_str generic»",
  "",
  "",
  "class UnboundCommandError(click.ClickException):",
  "    \"\"\"No hook is bound for a command.\"\"\"",
  "",
  "    def __init__(self, command_path, tried):",
  "        self.command_path = list(command_path)",
  "        self.tried = list(tried)",
  "        super().__init__(",
  "            \"Command '\x7b\x7d' is not bound (tried: \x7b\x7d)\".format(",
  "                \" \".join(self.command_path), \", \".join(self.tried)",
  "            )",
  "        )",
  "",
  "",
  "class _ForgeGroup(click.Group):",
  "    \"\"\"A click group that also resolves command aliases.\"\"\"",
  "",
  "    def __init__(self, *args, **kwargs):",
  "        super().__init__(*args, **kwargs)",
  "        self.aliases = \x7b\x7d",
  "",
  "    def get_command(self, ctx, cmd_name):",
  "        return super().get_command(ctx, self.aliases.get(cmd_name, cmd_name))",
  "",
  "",
  "def _lookup(name):",
  "    if _hooks is None:",
  "        return None",
  "    return getattr(_hooks, name, None)",
  "",
  "",
  "def _with_globals(kwargs):",
  "    ctx = click.get_current_context(silent=True)",
  "    merged = dict(ctx.find_root().obj or \x7b\x7d) if ctx is not None else \x7b\x7d",
  "    merged.update(kwargs)",
  "    return merged",
  "",
  "",
  "def _invoke(command_path, candidates, kwargs):",
  "    kwargs = _with_globals(kwargs)",
  "    for name in candidates:",
  "        hook = _lookup(name)",
  "        if hook is None:",
  "            continue",
  "        if name == GENERIC_HOOK:",
  "            return hook(list(command_path), **kwargs)",
  "        return hook(**kwargs)",
  "    raise UnboundCommandError(command_path, candidates)",
  "",
  "",
  "def _invoke_managed(command_path, controllers, action, candidates, kwargs):",
  "    for name in controllers:",
  "        target = _lookup(name)",
  "        if target is None:",
  "            continue",
  "        controller = target() if isinstance(target, type) else target",
  "        method = getattr(controller, action, None)",
  "        if method is not None:",
  "            return method(**_with_globals(kwargs))",
  "    return _invoke(list(command_path) + [action], candidates, kwargs)",
  "",
  "",
  "def _dispatch_group(ctx, command_path, candidates, kwargs):",
  "    for name in candidates:",
  "        if name != GENERIC_HOOK and _lookup(name) is not None:",
  "            return _invoke(command_path, [name], kwargs)",
  "    click.echo(ctx.get_help())",
  "",
  "",
  "@click.group(cls=_ForgeGroup, invoke_without_command=True, help=«py_str description»)",
  "@click.version_option(«py_str version», prog_name=«py_str cli_name»)",
  "«global_decorators»@click.pass_context",
  "def main(«global_params»):",
  "    ctx.ensure_object(dict)",
  "«#each global_options»",
  "    ctx.obj[«py_str key»] = «ident»",
  "«/each»",
  "    if ctx.invoked_subcommand is None:",
  "        click.echo(ctx.get_help())",
  "",
  "",
  "«commands_code»if __name__ == \"__main__\":",
  "    main()"]

/-- The text of `Python.hooks`. -/
def hooks : List String := [
  "# Hook implementations for «cli_name».",
  "#",
  "# cli-forge creates this file once and never overwrites it. Each command of",
  "# the generated CLI calls the first of its candidate names defined here.",
  "",
  "import click",
  "",
  "",
  "«stubs»# Catch-all for commands without a dedicated hook:",
  "#",
  "# def «generic»(command_path, **kwargs):",
  "#     click.echo(\"\x7b\x7d: \x7b\x7d\".format(\" \".join(command_path), kwargs))"]

/-- The text of `Python.packageInit`. -/
def packageInit : List String := [
  "\"\"\"«cli_name» package.\"\"\"",
  "",
  "__version__ = «py_str version»"]

/-- The text of `Python.manifest`. -/
def manifest : List String := [
  "[build-system]",
  "requires = [\"setuptools>=61.0\"]",
  "build-backend = \"setuptools.build_meta\"",
  "",
  "[project]",
  "name = «py_str cli_name»",
  "version = «py_str version»",
  "description = «py_str tagline»",
  "requires-python = \">=3.8\"",
  "dependencies = [\"click>=8.0\"]",
  "",
  "[project.scripts]",
  "«cli_name» = \"«package».cli:main\"",
  "",
  "[tool.setuptools.packages.find]",
  "where = [\"src\"]"]

/-- The text of `Python.bootstrap`. -/
def bootstrap : List String := [
  "#!/usr/bin/env bash",
  "# Install «cli_name» for the current user.",
  "set -euo pipefail",
  "",
  "cd \"$(dirname \"$0\")\"",
  "",
  "if ! command -v python3 >/dev/null 2>&1; then",
  "    echo \"python3 is required to install «cli_name»\" >&2",
  "    exit 1",
  "fi",
  "",
  "python3 -m pip install --user -e .",
  "echo \"«cli_name» installed. Run '«cli_name» --help' to get started.\""]

end Texts

/-- The texts of the templates by name. -/
def texts : List (String × List String) :=
  [("python/params", Texts.params),
   ("python/command", Texts.command),
   ("python/group", Texts.group),
   ("python/managed", Texts.managed),
   ("python/stub_command", Texts.stubCommand),
   ("python/stub_controller", Texts.stubController),
   ("python/cli", Texts.program),
   ("python/hooks", Texts.hooks),
   ("python/init", Texts.packageInit),
   ("python/pyproject", Texts.manifest),
   ("python/setup", Texts.bootstrap)]

end CliGen.Target.Python
