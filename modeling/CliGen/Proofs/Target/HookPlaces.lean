import CliGen.Proofs.Storage.Paths
import CliGen.Proofs.Target.Blueprint.Builtin
import CliGen.Proofs.Target.Composition

/-!
# Where hook files are

A file that a target makes belongs to the user if and only if its path ends in the name of a hook
file (`Registry.kind_eq_hookStub_iff`), whatever the command line is called. A backup never has such
a name.
-/

namespace CliGen

open Target Outcome

/-! ## The last name of a path -/

namespace Path

/-- The name that a plain path ends in. -/
def lastName (path : String) : String := (Text.splitAt '/' path).getLastD ""

/-- The last name of a path is the name behind its last slash. -/
theorem lastName_append (directory : String) {name below : String}
    (hbelow : below = String.singleton '/' ++ name) (h : Text.splitAt '/' name = [name]) :
    lastName (directory ++ below) = name := by
  rw [lastName, hbelow, ← String.append_assoc, Text.splitAt_append_separator, h,
    List.getLastD_concat]

end Path

/-- The names of hook files. -/
def hookFileNames : List String := ["cli_hooks.py", "hooks.js", "hooks.ts", "hooks.rs"]

/-- A backup is no hook file. -/
theorem backup_notMem_hookFileNames (name : String) : name ++ ".bak" ∉ hookFileNames := by
  intro hmem
  have hlast : (name ++ ".bak").toList.getLast? = some 'k' := by
    rw [String.toList_append, List.getLast?_append]
    rfl
  simp only [hookFileNames, List.mem_cons, List.not_mem_nil, or_false] at hmem
  rcases hmem with heq | heq | heq | heq <;> rw [heq] at hlast <;> exact absurd hlast (by decide)

namespace Artifact

/-- What a file is, and where it goes. -/
def place (a : Artifact) : ArtifactKind × String := (a.kind, a.path)

/-- The path of a file tells whether it belongs to the user. -/
def ToldByName (a : Artifact) : Prop :=
  a.kind = .hookStub ↔ Path.lastName a.path ∈ hookFileNames

/-- Files at these places are hook files exactly if they have the name of one. -/
theorem toldByName_of_places {files : List Artifact} {places : List (ArtifactKind × String)}
    (h : files.map (·.place) = places)
    (htold : ∀ e ∈ places, e.1 = .hookStub ↔ Path.lastName e.2 ∈ hookFileNames) :
    ∀ a ∈ files, a.ToldByName := by
  intro a ha
  exact htold a.place (h ▸ List.mem_map_of_mem ha)

end Artifact

variable {k : Composition} {scene : Scene} {fragments : List Fragment} {files : List Artifact}

/-- The files of a target are at the paths of their components, in the order of the plans. -/
private theorem places_of_compose (hk : k.Sound) {places : List (ArtifactKind × String)}
    (hplaces : List.Forall₂ (fun (p : FilePlan) e =>
      p.kind = e.1 ∧ pathOf k.target.layout scene.tree p.component = .ok e.2) k.plans places)
    (h : k.target.compose scene fragments = .ok files) : files.map (·.place) = places := by
  obtain ⟨text, -, hyields⟩ := hk.files_of_compose h
  rw [← List.map_id places]
  refine map_eq_map_of_forall₂ (fun p a e hyield he => ?_) hyields hplaces
  rw [Artifact.place, hyield.kind_eq, he.1, Except.ok.inj (hyield.path_eq.symm.trans he.2)]
  rfl

private theorem python_places (h : Target.python.compose scene fragments = .ok files) :
    files.map (·.place) = [
      (.entryPoint, "src/" ++ scene.tree.packageName ++ "/cli.py"),
      (.support, "src/" ++ scene.tree.packageName ++ "/__init__.py"),
      (.hookStub, "src/" ++ scene.tree.packageName ++ "/cli_hooks.py"),
      (.manifest, "pyproject.toml"), (.bootstrap, "setup.sh")] :=
  places_of_compose Composition.python_sound (.cons ⟨rfl, rfl⟩ (.cons ⟨rfl, rfl⟩
    (.cons ⟨rfl, rfl⟩ (.cons ⟨rfl, rfl⟩ (.cons ⟨rfl, rfl⟩ .nil))))) h

/-- The files of a package, in the order in which they are written. -/
def Target.JavaScript.Dialect.places : JavaScript.Dialect → List (ArtifactKind × String)
  | .plain => [(.entryPoint, "cli.js"), (.hookStub, "src/hooks.js"), (.manifest, "package.json"),
    (.bootstrap, "setup.sh")]
  | .typed => [(.entryPoint, "cli.ts"), (.hookStub, "src/hooks.ts"), (.manifest, "package.json"),
    (.support, "tsconfig.json"), (.bootstrap, "setup.sh")]

private theorem javascript_places {d : JavaScript.Dialect}
    (h : (Target.JavaScript.target d).compose scene fragments = .ok files) :
    files.map (·.place) = d.places := by
  refine places_of_compose (Composition.javascript_sound d) ?_ h
  cases d with
  | plain => exact .cons ⟨rfl, rfl⟩ (.cons ⟨rfl, rfl⟩ (.cons ⟨rfl, rfl⟩ (.cons ⟨rfl, rfl⟩ .nil)))
  | typed => exact .cons ⟨rfl, rfl⟩ (.cons ⟨rfl, rfl⟩ (.cons ⟨rfl, rfl⟩ (.cons ⟨rfl, rfl⟩
      (.cons ⟨rfl, rfl⟩ .nil))))

private theorem rust_places (h : Target.rust.compose scene fragments = .ok files) :
    files.map (·.place) = [(.entryPoint, "src/main.rs"), (.hookStub, "src/hooks.rs"),
      (.manifest, "Cargo.toml"), (.bootstrap, "setup.sh")] :=
  places_of_compose Composition.rust_sound
    (.cons ⟨rfl, rfl⟩ (.cons ⟨rfl, rfl⟩ (.cons ⟨rfl, rfl⟩ (.cons ⟨rfl, rfl⟩ .nil)))) h

private theorem python_toldByName (h : Target.python.compose scene fragments = .ok files) :
    ∀ a ∈ files, a.ToldByName := by
  have hentry : Path.lastName ("src/" ++ scene.tree.packageName ++ "/cli.py") = "cli.py" :=
    Path.lastName_append _ (by decide) (by decide)
  have hinit : Path.lastName ("src/" ++ scene.tree.packageName ++ "/__init__.py") =
      "__init__.py" := Path.lastName_append _ (by decide) (by decide)
  have hhooks : Path.lastName ("src/" ++ scene.tree.packageName ++ "/cli_hooks.py") =
      "cli_hooks.py" := Path.lastName_append _ (by decide) (by decide)
  refine Artifact.toldByName_of_places (python_places h) ?_
  simp only [List.forall_mem_cons, hentry, hinit, hhooks]
  decide

/-! ## Files to deliver -/

/-- Files that can be written below one directory, and tell by their names whether they belong to
the user. -/
structure Artifact.Deliverable (files : List Artifact) : Prop where
  validPath : ∀ a ∈ files, validatePath a.path = .ok ()
  nodup_paths : (files.map (·.path)).Nodup
  toldByName : ∀ a ∈ files, a.ToldByName

namespace Registry

variable {tree : CommandTree} {options : RenderOptions} {id : String}

/-- A target that is found is registered under its name. -/
theorem mem_of_get {r : Registry} {t : Target} (h : r.get id = .ok t) : (id, t) ∈ r := by
  rw [get] at h
  split at h
  · next hlookup =>
    cases h
    obtain ⟨before, after, hsplit, -⟩ := List.lookup_eq_some_iff.1 hlookup
    simp [hsplit]
  · cases h

/-- The identifier of a target can be the name of a directory. -/
theorem isPlain_of_render (h : builtin.render tree options id = .ok files) : Path.IsPlain id := by
  obtain ⟨t, ht, -⟩ := bind_eq_ok.1 h
  have hmem := mem_of_get ht
  simp only [builtin, List.map_cons, List.map_nil, List.mem_cons, Prod.mk.injEq, List.not_mem_nil,
    or_false] at hmem
  rcases hmem with ⟨rfl, -⟩ | ⟨rfl, -⟩ | ⟨rfl, -⟩ | ⟨rfl, -⟩ <;>
    exact Path.isPlain_of_validatePath (by rfl)

/-- What a target makes can be delivered. -/
theorem deliverable_of_render (h : builtin.render tree options id = .ok files) :
    Artifact.Deliverable files := by
  obtain ⟨t, ht, h⟩ := bind_eq_ok.1 h
  obtain ⟨scene, fragments, composed, hcomposed, hassemble⟩ := assemble_of_render h
  obtain ⟨hvalid, hnodup⟩ := Artifact.paths_of_assemble hassemble
  refine ⟨hvalid, hnodup, fun a ha => ?_⟩
  rw [Artifact.eq_of_assemble hassemble] at ha
  obtain ⟨b, hb, rfl⟩ := List.mem_map.1 ha
  have hmem := mem_of_get ht
  simp only [builtin, List.map_cons, List.map_nil, List.mem_cons, Prod.mk.injEq, List.not_mem_nil,
    or_false] at hmem
  have htold : b.ToldByName := by
    rcases hmem with ⟨-, rfl⟩ | ⟨-, rfl⟩ | ⟨-, rfl⟩ | ⟨-, rfl⟩
    · exact python_toldByName hcomposed b hb
    · exact Artifact.toldByName_of_places (javascript_places hcomposed) (by decide) b hb
    · exact Artifact.toldByName_of_places (javascript_places hcomposed) (by decide) b hb
    · exact Artifact.toldByName_of_places (rust_places hcomposed) (by decide) b hb
  exact htold

/-- The files of a package in a dialect of JavaScript. -/
theorem dialect_places (d : Target.JavaScript.Dialect)
    (h : builtin.render tree options (Blueprint.javascript d).target.id = .ok files) :
    files.map (·.place) = d.places := by
  have hmem : Blueprint.javascript d ∈ Blueprint.builtin := by cases d <;> simp [Blueprint.builtin]
  have hrender : (Target.JavaScript.target d).render tree options = .ok files :=
    (Blueprint.render_registry hmem tree options).symm.trans h
  obtain ⟨scene, fragments, composed, hcomposed, hassemble⟩ := assemble_of_render hrender
  rw [Artifact.eq_of_assemble hassemble, List.map_map]
  exact javascript_places hcomposed

/-- The files of a package for Node.js. -/
theorem nodejs_places (h : builtin.render tree options "nodejs" = .ok files) :
    files.map (·.place) = Target.JavaScript.Dialect.plain.places :=
  dialect_places .plain h

end Registry

end CliGen
