import CliGen.Proofs.Target.Contexts
import CliGen.Proofs.Target.Rendering
import CliGen.Proofs.Template.Safe
import CliGen.Target.Builtin

/-!
# How targets compose their files

Every target fills in the parameters of the whole command line, adds them and the code of all
commands to what stands for the command line, and makes each of its files from one template and the
value that comes of it. A composition tells by data what differs (`Composition`), and each target
composes as its composition tells (`Composition.python_sound`, `Composition.javascript_sound`,
`Composition.rust_sound`).

So what the files of a target are (`Composition.Sound.files_of_compose`) and that they can be made
(`Composition.Sound.compose_ok`) is shown for all targets at once.
-/

namespace CliGen

open Target Template Wording Outcome

/-! ## Plans of files -/

/-- A file that a target composes: the component that it stands for, the template of its text, its
kind, and whether users run it. -/
structure FilePlan where
  component : String
  template : String
  kind : ArtifactKind
  executable : Bool

namespace FilePlan

/-- The file of a plan, at a path and with a text. -/
def artifact (p : FilePlan) (path text : String) : Artifact :=
  let a := Artifact.make path text p.kind p.component
  if p.executable then a.asExecutable else a

/-- Fill in the template of a file, and find its path. -/
def file (p : FilePlan) (layout : CommandTree → List (String × String)) (scene : Scene)
    (context : Value) : Outcome Artifact := do
  let path ← pathOf layout scene.tree p.component
  return p.artifact path (← scene.engine.render p.template context)

/-- A file is what a plan tells: it stands at the path of the component, and its text is what the
template makes of a value. -/
structure Yields (p : FilePlan) (layout : CommandTree → List (String × String)) (scene : Scene)
    (context : Value) (a : Artifact) : Prop where
  path_eq : pathOf layout scene.tree p.component = .ok a.path
  component_eq : a.component? = some p.component
  kind_eq : a.kind = p.kind
  executable_eq : a.executable = p.executable
  content_eq : scene.engine.render p.template context = .ok a.content

variable {p : FilePlan} {layout : CommandTree → List (String × String)} {scene : Scene}
  {context : Value} {a : Artifact}

/-- A plan leads to a file if the component has a path and the template can be filled in. -/
theorem file_eq_ok :
    p.file layout scene context = .ok a ↔ ∃ path text,
      pathOf layout scene.tree p.component = .ok path ∧
        scene.engine.render p.template context = .ok text ∧ a = p.artifact path text := by
  simp only [file, bind_eq_ok, pure_eq_ok, Except.ok.injEq, exists_and_left, eq_comm (b := a)]

/-- What a plan leads to is what it tells. -/
theorem yields_of_file (h : p.file layout scene context = .ok a) :
    p.Yields layout scene context a := by
  obtain ⟨path, text, hpath, htext, rfl⟩ := file_eq_ok.1 h
  unfold artifact
  extract_lets made
  split
  next hrun => exact ⟨hpath, rfl, rfl, hrun.symm, htext⟩
  next hrun => exact ⟨hpath, rfl, rfl, (Bool.not_eq_true _ ▸ hrun).symm, htext⟩

end FilePlan

/-! ## Compositions -/

/-- How a target composes its files. -/
structure Composition where
  target : Target
  /-- The template of parameters. -/
  parameters : String
  /-- What it is filled in with for the whole command line, in front of the options. -/
  globals : Fields
  /-- What is added to what stands for the command line: made of the parameters of the whole command
  line, of the code of the commands at the top, and of the parameters that were filled in. -/
  added : Value → List Fragment → String → Fields
  plans : List FilePlan

namespace Composition

/-- The parameters of the whole command line. -/
def globalsOf (k : Composition) (root : Value) : Value :=
  .object (k.globals ++ [("options", root.field "global_options")])

/-- What the files are filled in with. -/
def contextOf (k : Composition) (root : Value) (fragments : List Fragment) (text : String) :
    Value :=
  root.extend (.object (k.added (k.globalsOf root) fragments text))

/-- A target composes its files as its composition tells. -/
def Sound (k : Composition) : Prop :=
  ∀ scene fragments, k.target.compose scene fragments = do
    let text ← scene.engine.render k.parameters (k.globalsOf scene.root)
    k.plans.mapM (·.file k.target.layout scene (k.contextOf scene.root fragments text))

/-! ### The compositions at hand -/

/-- The composition of the Python target. -/
def python : Composition where
  target := Target.python
  parameters := "python/params"
  globals := [("arguments", .list [])]
  added globals fragments text := [
    ("global_decorators", .str text),
    ("global_params", .str (Python.parameterList ["ctx"] globals)),
    ("commands_code", .str (Fragment.join fragments "commands")),
    ("stubs", .str (Fragment.join fragments "stubs"))]
  plans := [
    ⟨"entry", "python/cli", .entryPoint, true⟩, ⟨"package_init", "python/init", .support, false⟩,
    ⟨"hooks", "python/hooks", .hookStub, false⟩,
    ⟨"manifest", "python/pyproject", .manifest, false⟩,
    ⟨"bootstrap", "python/setup", .bootstrap, true⟩]

/-- The composition of the target of a dialect. Only a plain program is run as it is, and only a
typed one comes with settings for the compiler. -/
def javascript (d : JavaScript.Dialect) : Composition where
  target := JavaScript.target d
  parameters := "commander/params"
  globals := [("arguments", .list [])]
  added _ fragments text := [
    ("global_params", .str text), ("rest_param", .str d.restParameter),
    ("commands_code", .str (Fragment.join fragments "commands")),
    ("stubs", .str (Fragment.join fragments "stubs")),
    ("exports", .str (Fragment.join fragments "exports"))]
  plans :=
    let settings : List FilePlan := match d with
      | .plain => []
      | .typed => [⟨"tsconfig", d.template "tsconfig", .support, false⟩]
    [⟨"entry", d.template "cli", .entryPoint, d matches .plain⟩,
      ⟨"hooks", d.template "hooks", .hookStub, false⟩,
      ⟨"manifest", d.template "package", .manifest, false⟩] ++ settings ++
    [⟨"bootstrap", d.template "setup", .bootstrap, true⟩]

/-- The composition of the Rust target. -/
def rust : Composition where
  target := Target.rust
  parameters := "rust/args"
  globals := [("var", .str "global"), ("global", .bool true), ("arguments", .list [])]
  added _ fragments text := [
    ("global_args", .str text),
    ("commands_code", .str (Fragment.join fragments "commands")),
    ("stubs", .str (Fragment.join fragments "stubs")),
    ("registrations", .str (Fragment.join fragments "registrations"))]
  plans := [
    ⟨"entry", "rust/main", .entryPoint, false⟩, ⟨"hooks", "rust/hooks", .hookStub, false⟩,
    ⟨"manifest", "rust/manifest", .manifest, false⟩, ⟨"bootstrap", "rust/setup", .bootstrap, true⟩]

/-- The Python target composes as its composition tells. -/
theorem python_sound : python.Sound := by
  intro scene fragments
  simp only [python, Target.python, Python.compose, Python.programContext, FilePlan.file,
    FilePlan.artifact, contextOf, globalsOf, List.mapM_cons, List.mapM_nil, bind_assoc, pure_bind]
  rfl

/-- The targets of both dialects compose as their compositions tell. -/
theorem javascript_sound (d : JavaScript.Dialect) : (javascript d).Sound := by
  intro scene fragments
  cases d <;>
  · simp only [javascript, JavaScript.target, JavaScript.compose, JavaScript.programContext,
      FilePlan.file, FilePlan.artifact, contextOf, globalsOf, List.cons_append, List.nil_append,
      List.mapM_cons, List.mapM_nil, bind_assoc, pure_bind]
    rfl

/-- The Rust target composes as its composition tells. -/
theorem rust_sound : rust.Sound := by
  intro scene fragments
  simp only [rust, Target.rust, Rust.compose, Rust.programContext, FilePlan.file,
    FilePlan.artifact, contextOf, globalsOf, List.mapM_cons, List.mapM_nil, bind_assoc, pure_bind]
  rfl

/-! ### The files of a target -/

variable {k : Composition} {scene : Scene} {fragments : List Fragment} {files : List Artifact}

/-- **What the files of a target are.** Each is what its plan tells, and all are filled in with one
value. -/
theorem Sound.files_of_compose (hk : k.Sound) (h : k.target.compose scene fragments = .ok files) :
    ∃ text, scene.engine.render k.parameters (k.globalsOf scene.root) = .ok text ∧
      List.Forall₂
        (·.Yields k.target.layout scene (k.contextOf scene.root fragments text)) k.plans files := by
  rw [hk scene fragments] at h
  obtain ⟨text, htext, h⟩ := bind_eq_ok.1 h
  exact ⟨text, htext, (mapM_eq_ok.1 h).imp fun _ _ => FilePlan.yields_of_file⟩

/-- The plans of a composition are those of a layout: the files go to the paths of the layout,
though not always in its order. -/
def Lays (k : Composition) : Prop :=
  ∀ tree, ∃ entries, entries.Perm (k.target.layout tree) ∧
    List.Forall₂ (fun p e => p.component = e.1 ∧ pathOf k.target.layout tree p.component = .ok e.2)
      k.plans entries

/-- A composition whose templates are safe for what they are filled in with, and whose plans are
those of the layout of the target. -/
structure Fits (k : Composition) (shapes : List (String × Shape)) : Prop where
  parameters : (k.parameters, parametersShape) ∈ shapes
  templates : ∀ p ∈ k.plans, (p.template, rootShape) ∈ shapes
  globals : ∀ {root : Value}, rootShape.Holds root → parametersShape.Holds (k.globalsOf root)
  added : ∀ globals fragments text, "global_options" ∉ (k.added globals fragments text).map (·.1)
  lays : k.Lays
  mayBeExecutable : ∀ p ∈ k.plans, p.executable = true → p.kind.mayBeExecutable = true
  entryPoint : ∃ p ∈ k.plans, p.kind = .entryPoint
  bootstrap : ∃ p ∈ k.plans, p.kind = .bootstrap

/-- Each component of the layout has one file, at its path. -/
theorem Lays.covers (h : k.Lays) {context : Value}
    (hfiles : List.Forall₂ (·.Yields k.target.layout scene context) k.plans files) :
    Artifact.Covers files (k.target.layout scene.tree) := by
  obtain ⟨entries, hperm, hentries⟩ := h scene.tree
  have hsame : files.map (fun a => (a.component?, a.path)) =
      entries.map fun e => (some e.1, e.2) := by
    refine map_eq_map_of_forall₂ (fun p a e hyield he => ?_) hfiles hentries
    rw [hyield.component_eq, he.1, Except.ok.inj (hyield.path_eq.symm.trans he.2)]
  rw [Artifact.Covers, hsame]
  exact hperm.map _

/-- **The files of a target can be made** whatever the tree is. -/
theorem Sound.compose_ok (hk : k.Sound) {signatures : Signatures}
    {shapes : List (String × Shape)} (htyped : k.target.engine.Typed signatures shapes)
    (hfits : k.Fits shapes) (hengine : scene.engine = k.target.engine)
    (hroot : rootShape.Holds scene.root) (fragments : List Fragment) :
    ∃ files, k.target.compose scene fragments = .ok files ∧
      Composed (k.target.layout scene.tree) files := by
  obtain ⟨text, htext⟩ :=
    htyped.render_ok hengine k.parameters hfits.parameters (hfits.globals hroot)
  have hcontext : rootShape.Holds (k.contextOf scene.root fragments text) :=
    hroot.extend _ (by simpa using hfits.added _ fragments text)
  -- Every template can be filled in, and has a path in the layout.
  obtain ⟨files, hfiles⟩ : ∃ files, k.target.compose scene fragments = .ok files := by
    rw [hk scene fragments, htext, ok_bind, exists_mapM_eq_ok]
    intro p hp
    obtain ⟨entries, -, hentries⟩ := hfits.lays scene.tree
    obtain ⟨e, -, -, hpath⟩ := exists_right_of_mem hentries hp
    obtain ⟨content, hcontent⟩ :=
      htyped.render_ok hengine p.template (hfits.templates p hp) hcontext
    exact ⟨_, FilePlan.file_eq_ok.2 ⟨_, content, hpath, hcontent, rfl⟩⟩
  obtain ⟨_, -, hyields⟩ := hk.files_of_compose hfiles
  refine ⟨files, hfiles, hfits.lays.covers hyields, fun a ha hrun => ?_, ?_, ?_⟩
  · obtain ⟨p, hp, hyield⟩ := exists_left_of_mem hyields ha
    rw [hyield.kind_eq]
    exact hfits.mayBeExecutable p hp (hyield.executable_eq ▸ hrun)
  · obtain ⟨p, hp, hkind⟩ := hfits.entryPoint
    obtain ⟨a, ha, hyield⟩ := exists_right_of_mem hyields hp
    exact ⟨a, ha, hyield.kind_eq.trans hkind⟩
  · obtain ⟨p, hp, hkind⟩ := hfits.bootstrap
    obtain ⟨a, ha, hyield⟩ := exists_right_of_mem hyields hp
    exact ⟨a, ha, hyield.kind_eq.trans hkind⟩

end Composition

end CliGen
