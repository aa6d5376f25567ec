import CliGen.Proofs.Target.Blueprint
import CliGen.Proofs.Target.Python

/-!
# The blueprint of the Python target

Commands are decorated functions, and the decorator names the function of the parent. Hooks are
functions and classes, and are listed nowhere (`Blueprint.python_sound`).
-/

namespace CliGen.Blueprint

open Target Template Outcome

/-- What the Python target makes of commands. -/
def python : Blueprint where
  target := Target.python
  wording := Python.wording
  context := Python.commandContext
  template
    | .managed => "python/managed"
    | .group => "python/group"
    | .leaf => "python/command"
  stub
    | .managed => some "python/stub_controller"
    | .group => none
    | .leaf => some "python/stub_command"
  listing := none
  program := "python/cli"
  hooks := "python/hooks"
  opening role parent _ := "@" ++ parent ++ if role = .leaf then ".command(" else ".group("
  header role var := "def " ++ var ++ if role = .managed then "():\n" else "("
  comment _ := ""
  declaration
    | .managed, name => "class " ++ name ++ ":\n"
    | _, name => "def " ++ name ++ "("

namespace Python

variable {scene : Scene} {c : Command} {b : Hook.Binding} {node : Value}

private theorem choose_eq (c : Command) (b : Hook.Binding) :
    Target.Python.choose c b = python.choice c.role b.definedName := by
  rw [Target.Python.choose, Target.Python.commandTemplates, Command.role]
  split
  next => rfl
  next => split <;> rfl

private theorem tells (h : Target.Python.commandContext scene c b = .ok node) :
    Target.Python.wording.Tells c b node := by
  unfold Target.Python.commandContext at h
  extract_lets command extended at h
  obtain ⟨decorators, -, h⟩ := bind_eq_ok.1 h
  cases h
  exact ⟨rfl, rfl, rfl, rfl, rfl⟩

/-! ## Texts of commands and of hooks -/

private theorem command_text {s : String} (hengine : scene.engine = Target.python.engine)
    (hnode : Target.Python.commandContext scene c b = .ok node)
    (h : scene.engine.render (python.template c.role) node = .ok s) :
    ∃ middle rest, s = python.opening c.role (python.wording.parentVariable c)
      (parserVariable c.path) ++
        (middle ++ python.header c.role (parserVariable c.path) ++ rest) := by
  rw [hengine] at h
  have hvar : Shows Target.python.engine.helpers node "var" (parserVariable c.path) :=
    ⟨rfl, (tells hnode).var⟩
  have hparent : Shows Target.python.engine.helpers node "parent_var"
      (python.wording.parentVariable c) := ⟨rfl, (tells hnode).parent_var⟩
  cases hrole : c.role with
  | managed =>
    rw [hrole] at h
    have ht : Target.python.engine.templates.lookup "python/managed" =
        some ([text "@", put "parent_var", text ".group("] ++
          ((Target.Python.managed.drop 3).take 6 ++ [text "def ", put "var", text "():\n"] ++
            Target.Python.managed.drop 12)) := rfl
    exact Engine.render_from ht (fill_between hparent _ _) (fill_between hvar _ _) h
  | group =>
    rw [hrole] at h
    have ht : Target.python.engine.templates.lookup "python/group" =
        some ([text "@", put "parent_var", text ".group("] ++
          ((Target.Python.group.drop 3).take 8 ++ [text "def ", put "var", text "("] ++
            Target.Python.group.drop 14)) := rfl
    exact Engine.render_from ht (fill_between hparent _ _) (fill_between hvar _ _) h
  | leaf =>
    rw [hrole] at h
    have ht : Target.python.engine.templates.lookup "python/command" =
        some ([text "@", put "parent_var", text ".command("] ++
          ((Target.Python.command.drop 3).take 6 ++ [text "def ", put "var", text "("] ++
            Target.Python.command.drop 12)) := rfl
    exact Engine.render_from ht (fill_between hparent _ _) (fill_between hvar _ _) h

private theorem stub_text {stub s : String} (hengine : scene.engine = Target.python.engine)
    (hmanaged : b.isManaged = c.lifecycle.isManaged)
    (hnode : Target.Python.commandContext scene c b = .ok node)
    (hstub : python.stub c.role = some stub) (h : scene.engine.render stub node = .ok s) :
    ∃ rest, s = python.comment (Text.oneLine c.description) ++
      (python.declaration c.role b.definedName ++ rest) := by
  rw [hengine] at h
  have hname := (tells hnode).name hmanaged
  cases hrole : c.role with
  | managed =>
    rw [hrole] at hstub hname
    cases hstub
    have ht : Target.python.engine.templates.lookup "python/stub_controller" =
        some ([text "class ", put "controller", text ":\n"] ++
          Target.Python.stubController.drop 3) := rfl
    obtain ⟨rest, rfl⟩ := Engine.render_starts ht (fill_between ⟨rfl, hname⟩ _ _) h
    exact ⟨rest, (String.empty_append).symm⟩
  | group =>
    rw [hrole] at hstub
    cases hstub
  | leaf =>
    rw [hrole] at hstub hname
    cases hstub
    have ht : Target.python.engine.templates.lookup "python/stub_command" =
        some ([text "def ", put "canonical_name", text "("] ++
          Target.Python.stubCommand.drop 3) := rfl
    obtain ⟨rest, rfl⟩ := Engine.render_starts ht (fill_between ⟨rfl, hname⟩ _ _) h
    exact ⟨rest, (String.empty_append).symm⟩

/-! ## Files -/

private theorem shown : python.ShownBy .python where
  target_eq := rfl
  program := ⟨_, List.mem_cons_self, rfl, rfl⟩
  hooks := ⟨_, List.mem_of_getElem? (show Composition.python.plans[2]? = _ from rfl), rfl, rfl⟩
  shows_code _ _ _ := ⟨rfl, rfl⟩
  shows_stubs _ _ _ := ⟨rfl, rfl⟩
  shows_list := nofun
  put_code := ⟨_, rfl, List.mem_of_getElem? (show Target.Python.program[25]? = _ from rfl)⟩
  put_stubs := ⟨_, rfl, List.mem_of_getElem? (show Target.Python.hooks[4]? = _ from rfl)⟩
  put_list := nofun

end Python

/-- The Python target keeps to its blueprint. -/
theorem python_sound : python.Sound where
  emits := ⟨Target.Python.choose, Target.Python.emit_eq, fun c b _ => Python.choose_eq c b⟩
  nodup_keys := by decide
  stub_eq_none_iff role := by cases role <;> simp [python]
  tells := Python.tells
  command_text := Python.command_text
  stub_text := Python.stub_text
  composes := Python.shown.composes Composition.python_sound

end CliGen.Blueprint
