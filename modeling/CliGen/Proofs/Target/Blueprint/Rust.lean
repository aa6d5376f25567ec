import CliGen.Proofs.Target.Blueprint
import CliGen.Proofs.Target.Rust

/-!
# The blueprint of the Rust target

A command has a function that builds its parser and one that runs it, and both are named after its
path; groups share the template of commands that are bound to one callable. Hooks are registered by
name, callables and controllers each in their own way (`Blueprint.rust_sound`).
-/

namespace CliGen.Blueprint

open Target Template Outcome

/-- How the hook of a command is registered. -/
def registryMethod : Command.Role → String
  | .managed => "controller"
  | _ => "callable"

/-- What the Rust target makes of commands. -/
def rust : Blueprint where
  target := Target.rust
  wording := Rust.wording
  context := Rust.commandContext
  template
    | .managed => "rust/managed"
    | _ => "rust/command"
  stub
    | .managed => some "rust/stub_controller"
    | .group => none
    | .leaf => some "rust/stub_command"
  listing := some ⟨"registrations", fun role name => Rust.registration (registryMethod role) name,
    some ("pub fn register(registry: &mut HookRegistry) \x7b\n",
      "    // Catch-all for commands without a dedicated hook:\n")⟩
  program := "rust/main"
  hooks := "rust/hooks"
  opening _ _ var := "fn " ++ var ++ "() -> Command \x7b\n"
  header _ var :=
    "fn run_" ++ var ++ "(reg: &HookRegistry, matches: &ArgMatches) -> HookResult \x7b\n"
  comment description := "/// " ++ description ++ "\n"
  declaration
    | .managed, name => "pub struct " ++ name ++ ";\n"
    | _, name => "pub fn " ++ name ++ "(invocation: &Invocation<'_>) -> HookResult \x7b\n"

namespace Rust

variable {scene : Scene} {c : Command} {b : Hook.Binding} {node : Value}

private theorem choose_eq (hmanaged : b.isManaged = c.lifecycle.isManaged) :
    Target.Rust.choose c b = rust.choice c.role b.definedName := by
  rw [Target.Rust.choose, Target.Rust.commandStub, Command.role, ← hmanaged, Hook.Binding.isManaged,
    Hook.Binding.definedName]
  cases b.controller with
  | some k => rfl
  | none => cases c.isGroup <;> rfl

private theorem tells (h : Target.Rust.commandContext scene c b = .ok node) :
    Target.Rust.wording.Tells c b node := by
  unfold Target.Rust.commandContext at h
  extract_lets command at h
  obtain ⟨args, -, h⟩ := bind_eq_ok.1 h
  cases h
  exact ⟨rfl, rfl, rfl, rfl, rfl⟩

/-! ## Texts of commands and of hooks -/

private theorem command_text {s : String} (hengine : scene.engine = Target.rust.engine)
    (hnode : Target.Rust.commandContext scene c b = .ok node)
    (h : scene.engine.render (rust.template c.role) node = .ok s) :
    ∃ middle rest, s = rust.opening c.role (rust.wording.parentVariable c)
      (parserVariable c.path) ++
        (middle ++ rust.header c.role (parserVariable c.path) ++ rest) := by
  rw [hengine] at h
  have hvar : Shows Target.rust.engine.helpers node "var" (parserVariable c.path) :=
    ⟨rfl, (tells hnode).var⟩
  -- The templates differ in what stands between the two functions and behind them.
  have ht : ∃ between rest, Target.rust.engine.templates.lookup (rust.template c.role) =
      some ([text "fn ", put "var", text "() -> Command \x7b\n"] ++
        (between ++ [text "fn run_", put "var",
          text "(reg: &HookRegistry, matches: &ArgMatches) -> HookResult \x7b\n"] ++ rest)) := by
    cases c.role with
    | managed =>
      exact ⟨(Target.Rust.managed.drop 3).take 14, Target.Rust.managed.drop 20, rfl⟩
    | group => exact ⟨(Target.Rust.command.drop 3).take 17, Target.Rust.command.drop 23, rfl⟩
    | leaf => exact ⟨(Target.Rust.command.drop 3).take 17, Target.Rust.command.drop 23, rfl⟩
  obtain ⟨between, rest, ht⟩ := ht
  exact Engine.render_from ht (fill_between hvar _ _) (fill_between hvar _ _) h

private theorem stub_text {stub s : String} (hengine : scene.engine = Target.rust.engine)
    (hmanaged : b.isManaged = c.lifecycle.isManaged)
    (hnode : Target.Rust.commandContext scene c b = .ok node)
    (hstub : rust.stub c.role = some stub) (h : scene.engine.render stub node = .ok s) :
    ∃ rest, s = rust.comment (Text.oneLine c.description) ++
      (rust.declaration c.role b.definedName ++ rest) := by
  rw [hengine] at h
  have hhelper : Target.rust.engine.helpers.lookup "one_line" =
      some (Helper.ofText Text.oneLine) := rfl
  have hdescription := (tells hnode).description
  have hname := (tells hnode).name hmanaged
  cases hrole : c.role with
  | managed =>
    rw [hrole] at hstub hname
    cases hstub
    have ht : Target.rust.engine.templates.lookup "rust/stub_controller" = some
        ([text "/// ", call "one_line" (field "description"), text "\n"] ++
          [text "pub struct ", put "controller", text ";\n"] ++
            Target.Rust.stubController.drop 6) := rfl
    exact Engine.render_commented ht hhelper hdescription ⟨rfl, hname⟩ h
  | group =>
    rw [hrole] at hstub
    cases hstub
  | leaf =>
    rw [hrole] at hstub hname
    cases hstub
    have ht : Target.rust.engine.templates.lookup "rust/stub_command" = some
        ([text "/// ", call "one_line" (field "description"), text "\n"] ++
          [text "pub fn ", put "canonical_name",
            text "(invocation: &Invocation<'_>) -> HookResult \x7b\n"] ++
              Target.Rust.stubCommand.drop 6) := rfl
    exact Engine.render_commented ht hhelper hdescription ⟨rfl, hname⟩ h

/-! ## Files -/

/-- The list of hooks stands between the last line of what comes before it and another text. -/
private theorem hooks_split : Target.Rust.hooks = Target.Rust.hooks.take 3 ++ [lines ([
    "//!",
    "//! cli-forge creates this file once and never overwrites it. Each command of",
    "//! the generated CLI calls the first of its candidate names registered below.",
    "",
    "#![allow(unused_imports)]",
    "",
    "use crate::\x7bController, HookRegistry, HookResult, Invocation\x7d;",
    ""] ++ ["pub fn register(registry: &mut HookRegistry) \x7b"]), put "registrations",
  text "    // Catch-all for commands without a dedicated hook:\n"] ++
    Target.Rust.hooks.drop 6 := rfl

private theorem shown : rust.ShownBy .rust where
  target_eq := rfl
  program := ⟨_, List.mem_cons_self, rfl, rfl⟩
  hooks := ⟨_, List.mem_cons_of_mem _ List.mem_cons_self, rfl, rfl⟩
  shows_code _ _ _ := ⟨rfl, rfl⟩
  shows_stubs _ _ _ := ⟨rfl, rfl⟩
  shows_list := by
    rintro l ⟨⟩ tree fragments text
    exact ⟨rfl, rfl⟩
  put_code := ⟨_, rfl, List.mem_of_getElem? (show Target.Rust.program[22]? = _ from rfl)⟩
  put_stubs := ⟨_, rfl, List.mem_of_getElem? (show Target.Rust.hooks[12]? = _ from rfl)⟩
  put_list := by
    rintro l ⟨⟩ frame ⟨⟩
    exact ⟨_, _, _, _, rfl, congrArg some hooks_split⟩

end Rust

/-- The Rust target keeps to its blueprint. -/
theorem rust_sound : rust.Sound where
  emits := ⟨Target.Rust.choose, Target.Rust.emit_eq, fun _ _ => Rust.choose_eq⟩
  nodup_keys := by decide
  stub_eq_none_iff role := by cases role <;> simp [rust]
  tells := Rust.tells
  command_text := Rust.command_text
  stub_text := Rust.stub_text
  composes := Rust.shown.composes Composition.rust_sound

end CliGen.Blueprint
