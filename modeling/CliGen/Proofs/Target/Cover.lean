import CliGen.Proofs.Target.Blueprint.Builtin
import CliGen.Proofs.Target.Composition

/-!
# Covers of targets

What the files of a target show of the whole command line, next to the code of its commands: the
program shows the parameters that every command has, and the manifest shows what the command line is
called. Both are filled in from one value (`Cover.Shown`), whatever the tree
(`Cover.exists_shown`).
-/

namespace CliGen

open Target Template Outcome

/-- How a target shows what stands for the whole command line. -/
structure Cover where
  blueprint : Blueprint
  /-- The template of parameters. -/
  parameters : String
  /-- What it is filled in with for the parameters that every command has. -/
  globals : CommandTree → Value
  /-- The field under which the program shows these parameters. -/
  globalsKey : String
  /-- The template of the manifest. -/
  manifest : String
  /-- The path of the manifest. -/
  path : String

namespace Cover

/-- The fields that tell what the command line is called. -/
def identity : List String := ["cli_name", "package", "version", "tagline", "crate_version"]

/-- The files of a target show a value that tells what stands for the whole command line. -/
structure Shown (v : Cover) (tree : CommandTree) (files : List Artifact) (context : Value) :
    Prop where
  identity_eq : ∀ key ∈ identity, context.get? key = (v.blueprint.target.root tree).get? key
  globals_eq : ∃ text,
    v.blueprint.target.engine.render v.parameters (v.globals tree) = .ok text ∧
      context.get? v.globalsKey = some (.str text)
  program : ∀ a ∈ files, a.kind = .entryPoint →
    v.blueprint.target.engine.render v.blueprint.program context = .ok a.content
  manifest : ∃ a ∈ files, a.kind = .manifest ∧ a.path = v.path ∧
    v.blueprint.target.engine.render v.manifest context = .ok a.content

/-- Files are told for which target they are, and show what they showed before. -/
theorem Shown.withMeta {v : Cover} {tree : CommandTree} {files : List Artifact} {context : Value}
    (h : v.Shown tree files context) (key value : String) :
    v.Shown tree (files.map (·.withMeta key value)) context where
  identity_eq := h.identity_eq
  globals_eq := h.globals_eq
  program a ha hkind := by
    obtain ⟨b, hb, rfl⟩ := List.mem_map.1 ha
    exact h.program b hb hkind
  manifest := by
    obtain ⟨a, ha, hkind, hpath, hrender⟩ := h.manifest
    exact ⟨_, List.mem_map_of_mem ha, hkind, hpath, hrender⟩

/-- The parameters of every command, as options of the whole command line. -/
def globalOptions (w : Wording) (tree : CommandTree) : Value :=
  .list (tree.globalOptions.map (w.option tree.cliName []))

/-! ## The covers at hand -/

/-- The cover of the Python target. -/
def python : Cover where
  blueprint := .python
  parameters := "python/params"
  globals tree := .object [
    ("arguments", .list []), ("options", globalOptions Python.wording tree)]
  globalsKey := "global_decorators"
  manifest := "python/pyproject"
  path := "pyproject.toml"

/-- The cover of the target of a dialect. -/
def javascript (d : JavaScript.Dialect) : Cover where
  blueprint := .javascript d
  parameters := "commander/params"
  globals tree := .object [
    ("arguments", .list []), ("options", globalOptions JavaScript.wording tree)]
  globalsKey := "global_params"
  manifest := d.template "package"
  path := "package.json"

/-- The cover of the Rust target. -/
def rust : Cover where
  blueprint := .rust
  parameters := "rust/args"
  globals tree := .object [
    ("var", .str "global"), ("global", .bool true), ("arguments", .list []),
    ("options", globalOptions Rust.wording tree)]
  globalsKey := "global_args"
  manifest := "rust/manifest"
  path := "Cargo.toml"

/-- The covers of all targets of this library. -/
def builtin : List Cover := [python, javascript .plain, javascript .typed, rust]

/-- Every target has a cover. -/
theorem map_blueprint_builtin : builtin.map (·.blueprint) = Blueprint.builtin := rfl

/-! ## Files -/

/-- A cover tells of the files that a composition makes. -/
structure Tells (v : Cover) (k : Composition) : Prop where
  sound : k.Sound
  target_eq : k.target = v.blueprint.target
  parameters_eq : k.parameters = v.parameters
  globals_eq : ∀ tree, k.globalsOf (v.blueprint.target.root tree) = v.globals tree
  /-- What tells the name stays where other fields are added. -/
  identity_notMem : ∀ globals fragments text, ∀ key ∈ identity,
    key ∉ (k.added globals fragments text).map (·.1)
  globalsKey_eq : ∀ tree fragments text,
    (k.contextOf (v.blueprint.target.root tree) fragments text).get? v.globalsKey =
      some (.str text)
  program : ∀ p ∈ k.plans, p.kind = .entryPoint → p.template = v.blueprint.program
  manifest : ∃ p ∈ k.plans, p.kind = .manifest ∧ p.template = v.manifest ∧
    ∀ tree, pathOf k.target.layout tree p.component = .ok v.path

/-- The cover of Python tells of its files. -/
theorem python_tells : python.Tells .python where
  sound := Composition.python_sound
  target_eq := rfl
  parameters_eq := rfl
  globals_eq _ := rfl
  identity_notMem := by simp [Composition.python, identity]
  globalsKey_eq _ _ _ := rfl
  program := by simp [Composition.python, python, Blueprint.python]
  manifest := ⟨⟨"manifest", "python/pyproject", .manifest, false⟩, by simp [Composition.python],
    rfl, rfl, fun _ => rfl⟩

/-- The covers of Node.js and TypeScript tell of their files. -/
theorem javascript_tells (d : JavaScript.Dialect) : (javascript d).Tells (.javascript d) where
  sound := Composition.javascript_sound d
  target_eq := rfl
  parameters_eq := rfl
  globals_eq _ := rfl
  identity_notMem := by simp [Composition.javascript, identity]
  globalsKey_eq _ _ _ := rfl
  program := by cases d <;> simp [Composition.javascript, javascript, Blueprint.javascript]
  manifest := ⟨⟨"manifest", d.template "package", .manifest, false⟩,
    by simp [Composition.javascript], rfl, rfl, fun _ => by cases d <;> rfl⟩

/-- The cover of Rust tells of its files. -/
theorem rust_tells : rust.Tells .rust where
  sound := Composition.rust_sound
  target_eq := rfl
  parameters_eq := rfl
  globals_eq _ := rfl
  identity_notMem := by simp [Composition.rust, identity]
  globalsKey_eq _ _ _ := rfl
  program := by simp [Composition.rust, rust, Blueprint.rust]
  manifest := ⟨⟨"manifest", "rust/manifest", .manifest, false⟩, by simp [Composition.rust],
    rfl, rfl, fun _ => rfl⟩

/-- Every cover tells of the files of its target. -/
theorem exists_tells {v : Cover} (h : v ∈ builtin) : ∃ k, v.Tells k := by
  simp only [builtin, List.mem_cons, List.not_mem_nil, or_false] at h
  rcases h with rfl | rfl | rfl | rfl
  · exact ⟨_, python_tells⟩
  · exact ⟨_, javascript_tells .plain⟩
  · exact ⟨_, javascript_tells .typed⟩
  · exact ⟨_, rust_tells⟩

variable {v : Cover} {k : Composition} {scene : Scene} {fragments : List Fragment}
  {files : List Artifact}

/-- What tells the name stays where other fields are added. -/
private theorem identity_extend (root : Value) {added : Fields}
    (h : ∀ key ∈ identity, key ∉ added.map (·.1)) :
    ∀ key ∈ identity, (root.extend (.object added)).get? key = root.get? key := by
  intro key hkey
  cases root with
  | object fields => exact Fields.get?_extend fields added (h key hkey)
  | _ => rfl

/-- The files that a composition makes show what a cover tells. -/
theorem Tells.shown (h : v.Tells k) (hengine : scene.engine = v.blueprint.target.engine)
    (hroot : scene.root = v.blueprint.target.root scene.tree)
    (hcompose : v.blueprint.target.compose scene fragments = .ok files) :
    ∃ context, v.Shown scene.tree files context := by
  rw [← h.target_eq] at hcompose
  obtain ⟨text, htext, hyields⟩ := h.sound.files_of_compose hcompose
  rw [hengine, hroot, h.parameters_eq, h.globals_eq] at htext
  rw [hroot] at hyields
  refine ⟨_, identity_extend _ (h.identity_notMem _ fragments text),
    ⟨text, htext, h.globalsKey_eq scene.tree fragments text⟩, fun a ha hkind => ?_, ?_⟩
  · obtain ⟨p, hp, hyield⟩ := exists_left_of_mem hyields ha
    rw [← hengine, ← h.program p hp (hyield.kind_eq.symm.trans hkind)]
    exact hyield.content_eq
  · obtain ⟨p, hp, hkind, htemplate, hpath⟩ := h.manifest
    obtain ⟨a, ha, hyield⟩ := exists_right_of_mem hyields hp
    refine ⟨a, ha, hyield.kind_eq.trans hkind, ?_, ?_⟩
    · exact Except.ok.inj (hyield.path_eq.symm.trans (hpath scene.tree))
    · rw [← hengine, ← htemplate]
      exact hyield.content_eq

/-! ## Rendering -/

variable {tree : CommandTree} {options : RenderOptions}

/-- **What the files show of the whole command line.** -/
theorem exists_shown (hv : v ∈ builtin)
    (h : Registry.builtin.render tree options v.blueprint.target.id = .ok files) :
    ∃ context, v.Shown tree files context := by
  rw [Blueprint.render_registry (map_blueprint_builtin ▸ List.mem_map_of_mem hv)] at h
  obtain ⟨scene, fragments, log, composed, hscene, -, hcomposed, rfl⟩ := render_eq_ok h
  obtain ⟨bindings, -, rfl⟩ := scene_eq_ok.1 hscene
  obtain ⟨k, hk⟩ := exists_tells hv
  obtain ⟨context, hcontext⟩ := hk.shown rfl rfl hcomposed
  exact ⟨context, hcontext.withMeta _ _⟩

/-- The manifest is one of the files. Its text is what the template of the manifest makes of
whatever tells what the command line is called. -/
theorem exists_manifest (hv : v ∈ builtin)
    (h : Registry.builtin.render tree options v.blueprint.target.id = .ok files) {content : String}
    (hcontent : ∀ {context : Value} {text : String},
      (∀ key ∈ identity, context.get? key = (v.blueprint.target.root tree).get? key) →
      v.blueprint.target.engine.render v.manifest context = .ok text → text = content) :
    ∃ a ∈ files, a.kind = .manifest ∧ a.path = v.path ∧ a.content = content := by
  obtain ⟨context, hcontext⟩ := exists_shown hv h
  obtain ⟨a, ha, hkind, hpath, htext⟩ := hcontext.manifest
  exact ⟨a, ha, hkind, hpath, hcontent hcontext.identity_eq htext⟩

end Cover

end CliGen
