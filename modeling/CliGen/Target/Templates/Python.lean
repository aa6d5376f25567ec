import CliGen.Template.Pieces

/-!
# Python templates

The decorators, the functions and the hooks of a command, and the files of a package that runs them.
-/

namespace CliGen.Target.Python

open Template

/-- The decorators of a command, one for each parameter. -/
def params : Template := [
  forEach (field "arguments") [
    text "@click.argument(", call "py_str" (field "ident"), text ", metavar=",
    call "py_str" (field "metavar"), text ", type=", call "click_type" this, text ", required=",
    call "py_bool" (field "required"),
    whenTrue (field "has_default") [text ", default=", call "py_default" this], text ")\n"],
  forEach (field "options") [
    text "@click.option(", call "click_decls" this, text ", type=", call "click_type" this,
    whenTrue (field "flag") [text ", is_flag=True"],
    whenTrue (field "has_default") [
      text ", default=", call "py_default" this, text ", show_default=True"], text ", required=",
    call "py_bool" (field "required"), text ", envvar=", call "py_str" (field "env"),
    text ", help=", call "py_str" (field "description"), text ")\n"]]

/-- A command that is bound to one callable. -/
def command : Template := [
  text "@", put "parent_var", text ".command(", call "py_str" (field "name"),
  whenTrue (field "hidden") [text ", hidden=True"], text ", help=", call "py_str" (field "help"),
  text ")\n",
  put "decorators", text "def ", put "var", text "(", put "py_params", text "):\n",
  text "    ", call "py_str" (field "description"), text "\n",
  text "    _invoke(", call "py_tuple" (field "path"), text ", ",
  call "py_str" (field "candidates"), text ", ", put "py_kwargs", text ")\n",
  forEach (field "aliases") [
    putOuter "parent_var", text ".aliases[", call "py_str" this, text "] = ",
    call "py_str" (outer "name"), text "\n"],
  text "\n\n"]

/-- A command with commands below it. -/
def group : Template := [
  text "@", put "parent_var", text ".group(", call "py_str" (field "name"),
  text ", cls=_ForgeGroup, invoke_without_command=True",
  whenTrue (field "hidden") [text ", hidden=True"], text ", help=", call "py_str" (field "help"),
  text ")\n",
  put "decorators", text "@click.pass_context\n",
  text "def ", put "var", text "(", put "py_params_ctx", text "):\n",
  text "    ", call "py_str" (field "description"), text "\n",
  text "    if ctx.invoked_subcommand is None:\n",
  text "        _dispatch_group(ctx, ", call "py_tuple" (field "path"), text ", ",
  call "py_str" (field "candidates"), text ", ", put "py_kwargs", text ")\n",
  forEach (field "aliases") [
    putOuter "parent_var", text ".aliases[", call "py_str" this, text "] = ",
    call "py_str" (outer "name"), text "\n"],
  text "\n\n"]

/-- A managed command and its actions. -/
def managed : Template := [
  text "@", put "parent_var", text ".group(", call "py_str" (field "name"),
  text ", cls=_ForgeGroup", whenTrue (field "hidden") [text ", hidden=True"], text ", help=",
  call "py_str" (field "help"), text ")\n",
  text "def ", put "var", text "():\n",
  text "    ", call "py_str" (field "description"), text "\n",
  forEach (field "aliases") [
    putOuter "parent_var", text ".aliases[", call "py_str" this, text "] = ",
    call "py_str" (outer "name"), text "\n"],
  text "\n\n",
  forEach (field "actions") [
    text "@", putOuter "var", text ".command(", call "py_str" (field "action"), text ", help=",
    call "py_str" (field "help"), text ")\n",
    putOuter "decorators", text "def ", put "var", text "(", putOuter "py_params", text "):\n",
    text "    _invoke_managed(", call "py_tuple" (outer "path"), text ", ",
    call "py_str" (outer "controller_candidates"), text ", ", call "py_str" (field "action"),
    text ", ", call "py_str" (field "candidates"), text ", ", putOuter "py_kwargs", text ")\n",
    text "\n\n"]]

/-- The hook of a command. -/
def stubCommand : Template := [
  text "def ", put "canonical_name", text "(", put "py_params",
  whenTrue (field "has_globals") [whenTrue (field "py_params") [text ", "], text "**_globals"],
  text "):\n",
  text "    ", call "py_str" (field "description"), text "\n",
  text "    click.echo(\"", put "path_display", text ": not implemented yet\")\n",
  text "\n\n"]

/-- The hook of a managed command. -/
def stubController : Template := [
  text "class ", put "controller", text ":\n",
  text "    ", call "py_str" (field "description"), text "\n",
  forEach (field "actions") [
    text "\n    def ", put "action", text "(self",
    whenTrue (outer "py_params") [text ", ", putOuter "py_params"],
    whenTrue (outer "has_globals") [text ", **_globals"], text "):\n",
    text "        click.echo(\"", putOuter "path_display", text " ", put "action",
    text ": not implemented yet\")\n"],
  text "\n\n"]

/-- The generated program. -/
def program : Template := [
  text "#!/usr/bin/env python3\n",
  text "# ", put "cli_name", text " command-line interface.\n",
  lines [
    "#",
    "# Generated by cli-forge. Do not edit this file; implement commands in",
    "# cli_hooks.py next to it.",
    "",
    "import click",
    "",
    "try:",
    "    from . import cli_hooks as _hooks",
    "except ImportError:",
    "    try:",
    "        import cli_hooks as _hooks",
    "    except ImportError:",
    "        _hooks = None",
    ""],
  text "GENERIC_HOOK = ", call "py_str" (field "generic"), text "\n",
  lines [
    "",
    "",
    "class UnboundCommandError(click.ClickException):",
    "    \"\"\"No hook is bound for a command.\"\"\"",
    "",
    "    def __init__(self, command_path, tried):",
    "        self.command_path = list(command_path)",
    "        self.tried = list(tried)",
    "        super().__init__(",
    "            \"Command '\x7b\x7d' is not bound (tried: \x7b\x7d)\".format(",
    "                \" \".join(self.command_path), \", \".join(self.tried)",
    "            )",
    "        )",
    "",
    "",
    "class _ForgeGroup(click.Group):",
    "    \"\"\"A click group that also resolves command aliases.\"\"\"",
    "",
    "    def __init__(self, *args, **kwargs):",
    "        super().__init__(*args, **kwargs)",
    "        self.aliases = \x7b\x7d",
    "",
    "    def get_command(self, ctx, cmd_name):",
    "        return super().get_command(ctx, self.aliases.get(cmd_name, cmd_name))",
    "",
    "",
    "def _lookup(name):",
    "    if _hooks is None:",
    "        return None",
    "    return getattr(_hooks, name, None)",
    "",
    "",
    "def _with_globals(kwargs):",
    "    ctx = click.get_current_context(silent=True)",
    "    merged = dict(ctx.find_root().obj or \x7b\x7d) if ctx is not None else \x7b\x7d",
    "    merged.update(kwargs)",
    "    return merged",
    "",
    "",
    "def _invoke(command_path, candidates, kwargs):",
    "    kwargs = _with_globals(kwargs)",
    "    for name in candidates:",
    "        hook = _lookup(name)",
    "        if hook is None:",
    "            continue",
    "        if name == GENERIC_HOOK:",
    "            return hook(list(command_path), **kwargs)",
    "        return hook(**kwargs)",
    "    raise UnboundCommandError(command_path, candidates)",
    "",
    "",
    "def _invoke_managed(command_path, controllers, action, candidates, kwargs):",
    "    for name in controllers:",
    "        target = _lookup(name)",
    "        if target is None:",
    "            continue",
    "        controller = target() if isinstance(target, type) else target",
    "        method = getattr(controller, action, None)",
    "        if method is not None:",
    "            return method(**_with_globals(kwargs))",
    "    return _invoke(list(command_path) + [action], candidates, kwargs)",
    "",
    "",
    "def _dispatch_group(ctx, command_path, candidates, kwargs):",
    "    for name in candidates:",
    "        if name != GENERIC_HOOK and _lookup(name) is not None:",
    "            return _invoke(command_path, [name], kwargs)",
    "    click.echo(ctx.get_help())",
    "",
    ""],
  text "@click.group(cls=_ForgeGroup, invoke_without_command=True, help=",
  call "py_str" (field "description"), text ")\n",
  text "@click.version_option(", call "py_str" (field "version"), text ", prog_name=",
  call "py_str" (field "cli_name"), text ")\n",
  put "global_decorators", text "@click.pass_context\n",
  text "def main(", put "global_params", text "):\n",
  text "    ctx.ensure_object(dict)\n",
  forEach (field "global_options") [
    text "    ctx.obj[", call "py_str" (field "key"), text "] = ", put "ident", text "\n"],
  lines [
    "    if ctx.invoked_subcommand is None:",
    "        click.echo(ctx.get_help())",
    "",
    ""],
  put "commands_code", text "if __name__ == \"__main__\":\n",
  text "    main()\n"]

/-- The file that users fill in. -/
def hooks : Template := [
  text "# Hook implementations for ", put "cli_name", text ".\n",
  lines [
    "#",
    "# cli-forge creates this file once and never overwrites it. Each command of",
    "# the generated CLI calls the first of its candidate names defined here.",
    "",
    "import click",
    "",
    ""],
  put "stubs", text "# Catch-all for commands without a dedicated hook:\n",
  text "#\n",
  text "# def ", put "generic", text "(command_path, **kwargs):\n",
  text "#     click.echo(\"\x7b\x7d: \x7b\x7d\".format(\" \".join(command_path), kwargs))\n"]

/-- The file that makes the directory a package. -/
def packageInit : Template := [
  text "\"\"\"", put "cli_name", text " package.\"\"\"\n",
  text "\n",
  text "__version__ = ", call "py_str" (field "version"), text "\n"]

/-- The package manifest. -/
def manifest : Template := [
  lines [
    "[build-system]",
    "requires = [\"setuptools>=61.0\"]",
    "build-backend = \"setuptools.build_meta\"",
    "",
    "[project]"],
  text "name = ", call "py_str" (field "cli_name"), text "\n",
  text "version = ", call "py_str" (field "version"), text "\n",
  text "description = ", call "py_str" (field "tagline"), text "\n",
  lines [
    "requires-python = \">=3.8\"",
    "dependencies = [\"click>=8.0\"]",
    "",
    "[project.scripts]"],
  put "cli_name", text " = \"", put "package", text ".cli:main\"\n",
  lines ["", "[tool.setuptools.packages.find]", "where = [\"src\"]"]]

/-- The script that installs the package. -/
def bootstrap : Template := [
  text "#!/usr/bin/env bash\n",
  text "# Install ", put "cli_name", text " for the current user.\n",
  lines [
    "set -euo pipefail",
    "",
    "cd \"$(dirname \"$0\")\"",
    "",
    "if ! command -v python3 >/dev/null 2>&1; then"],
  text "    echo \"python3 is required to install ", put "cli_name", text "\" >&2\n",
  lines ["    exit 1", "fi", "", "python3 -m pip install --user -e ."],
  text "echo \"", put "cli_name", text " installed. Run '", put "cli_name",
  text " --help' to get started.\"\n"]

/-- The templates by name. -/
def templates : List (String × Template) :=
  [("python/params", params),
   ("python/command", command),
   ("python/group", group),
   ("python/managed", managed),
   ("python/stub_command", stubCommand),
   ("python/stub_controller", stubController),
   ("python/cli", program),
   ("python/hooks", hooks),
   ("python/init", packageInit),
   ("python/pyproject", manifest),
   ("python/setup", bootstrap)]

end CliGen.Target.Python
