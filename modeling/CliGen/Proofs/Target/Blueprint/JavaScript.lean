import CliGen.Proofs.Target.Blueprint
import CliGen.Proofs.Target.JavaScript

/-!
# The blueprints of the Node.js and TypeScript targets

Both dialects add a command to the variable of its parent. Their hooks differ: a typed program
exports every hook where it is declared, and a plain one exports them in a list at the end
(`Blueprint.javascript_sound`).
-/

namespace CliGen.Blueprint

open Target Template Outcome
open Target.JavaScript (Dialect)

/-- What stands around the list of hooks. -/
def exportsFrame : Dialect → Option (String × String)
  | .plain => some ("module.exports = \x7b\n", "\x7d;\n")
  | .typed => none

/-- What the target of a dialect makes of commands. -/
def javascript (d : Dialect) : Blueprint where
  target := JavaScript.target d
  wording := JavaScript.wording
  context := JavaScript.commandContext d
  template
    | .managed => "commander/managed"
    | .group => "commander/group"
    | .leaf => "commander/command"
  stub
    | .managed => some (d.template "stub_controller")
    | .group => none
    | .leaf => some (d.template "stub_command")
  listing := some ⟨"exports", fun _ name => s!"  {name},\n", exportsFrame d⟩
  program := d.template "cli"
  hooks := d.template "hooks"
  opening _ parent var := "const " ++ var ++ " = " ++ parent ++ "\n"
  header _ _ := "  .command("
  comment description :=
    match d with
    | .plain => "// " ++ description ++ "\n"
    | .typed => "/** " ++ description ++ " */\n"
  declaration role name :=
    match d, role with
    | .plain, .managed => "class " ++ name ++ " \x7b\n"
    | .plain, _ => "async function " ++ name ++ "("
    | .typed, .managed => "export class " ++ name ++ " \x7b\n"
    | .typed, _ => "export async function " ++ name ++ "("

namespace JavaScript

variable {d : Dialect} {scene : Scene} {c : Command} {b : Hook.Binding} {node : Value}

private theorem choose_eq (hmanaged : b.isManaged = c.lifecycle.isManaged) :
    Target.JavaScript.choose d c b = (javascript d).choice c.role b.definedName := by
  rw [Hook.Binding.isManaged] at hmanaged
  rw [Target.JavaScript.choose, Target.JavaScript.commandTemplate, Target.JavaScript.commandStub,
    Command.role, ← hmanaged, Hook.Binding.definedName]
  cases b.controller with
  | some k => rfl
  | none => cases c.isGroup <;> rfl

private theorem tells (h : Target.JavaScript.commandContext d scene c b = .ok node) :
    Target.JavaScript.wording.Tells c b node := by
  unfold Target.JavaScript.commandContext at h
  extract_lets command extended at h
  obtain ⟨params, -, h⟩ := bind_eq_ok.1 h
  cases h
  exact ⟨rfl, rfl, rfl, rfl, rfl⟩

/-! ## Texts of commands and of hooks -/

private theorem command_text {s : String}
    (hengine : scene.engine = (Target.JavaScript.target d).engine)
    (hnode : Target.JavaScript.commandContext d scene c b = .ok node)
    (h : scene.engine.render ((javascript d).template c.role) node = .ok s) :
    ∃ middle rest, s = (javascript d).opening c.role ((javascript d).wording.parentVariable c)
      (parserVariable c.path) ++
        (middle ++ (javascript d).header c.role (parserVariable c.path) ++ rest) := by
  rw [hengine] at h
  let engine := (Target.JavaScript.target d).engine
  have hvar : Shows engine.helpers node "var" (parserVariable c.path) := ⟨rfl, (tells hnode).var⟩
  have hparent : Shows engine.helpers node "parent_var" ((javascript d).wording.parentVariable c) :=
    ⟨rfl, (tells hnode).parent_var⟩
  have hopening : fill engine.helpers [.outermost node]
      [text "const ", put "var", text " = ", put "parent_var", text "\n"] =
        some ((javascript d).opening c.role ((javascript d).wording.parentVariable c)
          (parserVariable c.path)) := by
    rw [fill_text, fill_put hvar, fill_between hparent]
    simp [javascript, String.append_assoc]
  -- The templates of all roles begin in the same way.
  have ht : ∃ rest, engine.templates.lookup ((javascript d).template c.role) =
      some ([text "const ", put "var", text " = ", put "parent_var", text "\n"] ++
        ([] ++ [text "  .command("] ++ rest)) := by
    cases d with
    | plain => cases c.role <;> exact ⟨_, rfl⟩
    | typed => cases c.role <;> exact ⟨_, rfl⟩
  obtain ⟨rest, ht⟩ := ht
  exact Engine.render_from ht hopening (fill_text _ _) h

private theorem stub_text {stub s : String}
    (hengine : scene.engine = (Target.JavaScript.target d).engine)
    (hmanaged : b.isManaged = c.lifecycle.isManaged)
    (hnode : Target.JavaScript.commandContext d scene c b = .ok node)
    (hstub : (javascript d).stub c.role = some stub)
    (h : scene.engine.render stub node = .ok s) :
    ∃ rest, s = (javascript d).comment (Text.oneLine c.description) ++
      ((javascript d).declaration c.role b.definedName ++ rest) := by
  rw [hengine] at h
  let engine := (Target.JavaScript.target d).engine
  have hhelper : engine.helpers.lookup "one_line" = some (Helper.ofText Text.oneLine) := rfl
  have hdescription := (tells hnode).description
  have hname := (tells hnode).name hmanaged
  -- In both dialects a stub begins with a comment, and the declaration follows it.
  cases hrole : c.role with
  | managed =>
    rw [hrole] at hstub hname
    cases hstub
    have hshows : Shows engine.helpers node "controller" b.definedName := ⟨rfl, hname⟩
    cases d with
    | plain =>
      have ht : engine.templates.lookup "nodejs/stub_controller" = some
          ([text "// ", call "one_line" (field "description"), text "\n"] ++
            [text "class ", put "controller", text " \x7b\n"] ++
              Target.JavaScript.stubController.drop 6) := rfl
      exact Engine.render_commented ht hhelper hdescription hshows h
    | typed =>
      have ht : engine.templates.lookup "typescript/stub_controller" = some
          ([text "/** ", call "one_line" (field "description"), text " */\n"] ++
            [text "export class ", put "controller", text " \x7b\n"] ++
              Target.JavaScript.Typed.stubController.drop 6) := rfl
      exact Engine.render_commented ht hhelper hdescription hshows h
  | group =>
    rw [hrole] at hstub
    cases hstub
  | leaf =>
    rw [hrole] at hstub hname
    cases hstub
    have hshows : Shows engine.helpers node "canonical_name" b.definedName := ⟨rfl, hname⟩
    cases d with
    | plain =>
      have ht : engine.templates.lookup "nodejs/stub_command" = some
          ([text "// ", call "one_line" (field "description"), text "\n"] ++
            [text "async function ", put "canonical_name", text "("] ++
              Target.JavaScript.stubCommand.drop 6) := rfl
      exact Engine.render_commented ht hhelper hdescription hshows h
    | typed =>
      have ht : engine.templates.lookup "typescript/stub_command" = some
          ([text "/** ", call "one_line" (field "description"), text " */\n"] ++
            [text "export async function ", put "canonical_name", text "("] ++
              Target.JavaScript.Typed.stubCommand.drop 6) := rfl
      exact Engine.render_commented ht hhelper hdescription hshows h

/-! ## Files -/

/-- The template of a dialect's program. -/
private def programOf : Dialect → Template
  | .plain => Target.JavaScript.program
  | .typed => Target.JavaScript.Typed.program

/-- The template of a dialect's file of hooks. -/
private def hooksOf : Dialect → Template
  | .plain => Target.JavaScript.hooks
  | .typed => Target.JavaScript.Typed.hooks

private theorem lookup_files (d : Dialect) :
    (Target.JavaScript.target d).engine.templates.lookup (d.template "cli") = some (programOf d) ∧
      (Target.JavaScript.target d).engine.templates.lookup (d.template "hooks") =
        some (hooksOf d) := by
  cases d with
  | plain => exact ⟨rfl, rfl⟩
  | typed => exact ⟨rfl, rfl⟩

private theorem put_mem_files (d : Dialect) :
    put "commands_code" ∈ programOf d ∧ put "stubs" ∈ hooksOf d := by
  cases d with
  | plain =>
    exact ⟨List.mem_of_getElem? (show Target.JavaScript.program[21]? = _ from rfl),
      List.mem_of_getElem? (show Target.JavaScript.hooks[4]? = _ from rfl)⟩
  | typed =>
    exact ⟨List.mem_of_getElem? (show Target.JavaScript.Typed.program[21]? = _ from rfl),
      List.mem_of_getElem? (show Target.JavaScript.Typed.hooks[4]? = _ from rfl)⟩

/-- The list of a plain program's hooks stands behind the last one of some lines. -/
private theorem hooks_split : Target.JavaScript.hooks = Target.JavaScript.hooks.take 10 ++
    [lines (["//   console.log(commandPath.join(\" \"), values);", "// \x7d", ""] ++
      ["module.exports = \x7b"]), put "exports", text "\x7d;\n"] ++ [] := rfl

private theorem shown (d : Dialect) : (javascript d).ShownBy (.javascript d) where
  target_eq := rfl
  program := ⟨_, List.mem_cons_self, rfl, rfl⟩
  hooks := ⟨_, List.mem_cons_of_mem _ List.mem_cons_self, rfl, rfl⟩
  shows_code _ _ _ := ⟨rfl, rfl⟩
  shows_stubs _ _ _ := ⟨rfl, rfl⟩
  shows_list := by
    rintro l ⟨⟩ tree fragments text
    exact ⟨rfl, rfl⟩
  put_code := ⟨_, (lookup_files d).1, (put_mem_files d).1⟩
  put_stubs := ⟨_, (lookup_files d).2, (put_mem_files d).2⟩
  put_list := by
    rintro l ⟨⟩ frame hframe
    cases d with
    | typed => cases hframe
    | plain =>
      cases hframe
      exact ⟨_, _, _, _, rfl, (lookup_files .plain).2.trans (congrArg some hooks_split)⟩

end JavaScript

/-- The targets of both dialects keep to their blueprints. -/
theorem javascript_sound (d : Dialect) : (javascript d).Sound where
  emits :=
    ⟨Target.JavaScript.choose d, Target.JavaScript.emit_eq d, fun _ _ => JavaScript.choose_eq⟩
  nodup_keys := by
    show ["commands", "stubs", "exports"].Nodup
    decide
  stub_eq_none_iff role := by cases role <;> simp [javascript]
  tells := JavaScript.tells
  command_text := JavaScript.command_text
  stub_text := JavaScript.stub_text
  composes := (JavaScript.shown d).composes (Composition.javascript_sound d)

end CliGen.Blueprint
