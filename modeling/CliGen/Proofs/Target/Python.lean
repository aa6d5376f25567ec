import CliGen.Proofs.Naming.Words
import CliGen.Proofs.Target.CommandCode
import CliGen.Proofs.Target.Composition
import CliGen.Proofs.Text.Blank

/-!
# The Python target is total

Every template of the target is safe for what it is filled in with, so the code of every command and
the files of every package can be made (`Target.python_total`). The directory of the package is
named after the command line, with nothing in it that a path segment may not hold.
-/

namespace CliGen.Target

namespace Python

open Template Wording Outcome

/-! ## Templates -/

/-- What the helpers want. -/
def signatures : Signatures :=
  [("py_str", [.any]), ("py_bool", [.truth]), ("py_tuple", [.list .any]), ("py_default", [.any]),
   ("click_type", [.any]), ("click_decls", [.any])] ++ Helper.sharedSignatures

/-- What the templates are filled in with. -/
def shapes : List (String × Shape) :=
  [("python/params", parametersShape), ("python/command", commandShape),
   ("python/group", commandShape), ("python/managed", commandShape),
   ("python/stub_command", commandShape), ("python/stub_controller", commandShape),
   ("python/cli", rootShape), ("python/init", rootShape), ("python/hooks", rootShape),
   ("python/pyproject", rootShape), ("python/setup", rootShape)]

/-- The templates take what they are filled in with. -/
theorem typed_engine : python.engine.Typed signatures shapes where
  describe :=
    List.rel_append (.cons ⟨rfl, Helper.takes_ofValue _⟩ (.cons ⟨rfl, Helper.takes_ofBool _⟩
      (.cons ⟨rfl, Helper.takes_ofList _⟩ (.cons ⟨rfl, Helper.takes_ofValue _⟩
      (.cons ⟨rfl, Helper.takes_ofValue _⟩ (.cons ⟨rfl, Helper.takes_ofValue _⟩ .nil))))))
      Helper.describe_shared
  isSafe := by decide +kernel

variable {scene : Scene}

/-! ## Commands -/

private theorem commandContext_ok (h : scene.engine = python.engine) (c : Command)
    (b : Hook.Binding) :
    ∃ node, commandContext scene c b = .ok node ∧ commandShape.Holds node := by
  unfold commandContext
  extract_lets node extended
  have hextended : commandShape.Holds extended :=
    (holds_command wording scene.tree.cliName c b).extend _ (by simp)
  exact typed_engine.extend_ok h "python/params" (by simp [shapes]) (holds_parameters hextended)
    hextended (by simp)

/-- The templates that are chosen. -/
def choose (c : Command) (_ : Hook.Binding) : Choice where
  template := (commandTemplates c).1
  hook := (commandTemplates c).2.map (·, [])

/-- The code of a command is that of the templates that are chosen. -/
theorem emit_eq : python.emit = emitChosen commandContext choose := by
  funext scene c b children
  rw [emitChosen_eq]
  show emit scene c b children = _
  unfold emit choose
  rcases commandTemplates c with ⟨template, stub⟩
  cases stub <;> rfl

private theorem choose_mem_shapes (c : Command) (b : Hook.Binding) :
    ((choose c b).template, commandShape) ∈ shapes ∧
      ∀ stub ∈ (choose c b).hook, (stub.1, commandShape) ∈ shapes := by
  unfold choose commandTemplates
  split
  · simp [shapes]
  · split <;> simp [shapes]

/-- The code of every command can be made. -/
theorem emit_ok (h : scene.engine = python.engine) (c : Command) (b : Hook.Binding)
    (children : List Fragment) : ∃ fragment, python.emit scene c b children = .ok fragment := by
  obtain ⟨htemplate, hhook⟩ := choose_mem_shapes c b
  rw [emit_eq]
  exact exists_emitChosen typed_engine h (commandContext_ok h c b) htemplate hhook children

/-! ## Files -/

/-- The templates of the files are safe, and there is one for each component of the layout. -/
theorem composition_fits : Composition.python.Fits shapes where
  parameters := by simp [Composition.python, shapes]
  templates := by simp [Composition.python, shapes]
  globals := holds_globals
  added := by simp [Composition.python]
  lays tree := ⟨layout tree, .refl _, .cons ⟨rfl, rfl⟩ (.cons ⟨rfl, rfl⟩ (.cons ⟨rfl, rfl⟩
    (.cons ⟨rfl, rfl⟩ (.cons ⟨rfl, rfl⟩ .nil))))⟩
  mayBeExecutable := by simp [Composition.python, ArtifactKind.mayBeExecutable]
  entryPoint := by simp [Composition.python]
  bootstrap := by simp [Composition.python]

/-! ## The directory of the package -/

/-- The name of a package, character by character. -/
theorem toList_packageName (t : CommandTree) : t.packageName.toList =
    t.cliName.toList.map fun c => if c.isAlphanum then c.toLower else '_' := by
  rw [CommandTree.packageName, String.toList_ofList]

/-- The package is named by small letters, digits and underscores. -/
theorem small_of_mem_packageName {t : CommandTree} {c : Char} (hc : c ∈ t.packageName.toList) :
    (c.isLower = true ∨ c.isDigit = true) ∨ c = '_' := by
  rw [toList_packageName] at hc
  obtain ⟨d, -, rfl⟩ := List.mem_map.1 hc
  split
  next hd => exact .inl (Naming.small_toLower hd)
  next => exact .inr rfl

/-- Names of packages are made of letters, digits and underscores. -/
theorem isAlphanum_of_mem_packageName {t : CommandTree} {c : Char}
    (hc : c ∈ t.packageName.toList) : c.isAlphanum = true ∨ c = '_' :=
  (small_of_mem_packageName hc).imp_left Naming.isAlphanum_of_small

/-- No package is without a name. -/
theorem packageName_ne_empty {t : CommandTree} (h : Field.isName t.cliName = true) :
    t.packageName ≠ "" := by
  intro hempty
  have hnil : t.cliName.toList = [] := by
    rw [← String.toList_eq_nil_iff, toList_packageName, List.map_eq_nil_iff] at hempty
    exact hempty
  simp [Field.isName, hnil] at h

/-- A file below the directory of the package is at a plain path. -/
private theorem validatePath_package {t : CommandTree} (h : Field.isName t.cliName = true)
    {path : String} (file : String)
    (hpath : path.toList = "src/".toList ++ t.packageName.toList ++ '/' :: file.toList)
    (hslash : ∀ c ∈ file.toList, c ≠ '/' ∧ c ≠ '\\')
    (hfile : file ≠ "" ∧ file ≠ "." ∧ file ≠ "..") : validatePath path = .ok () := by
  have hname : ∀ c ∈ t.packageName.toList, c ≠ '/' ∧ c ≠ '\\' ∧ c ≠ '.' := by
    intro c hc
    rcases isAlphanum_of_mem_packageName hc with h | rfl
    · refine ⟨?_, ?_, ?_⟩ <;> rintro rfl <;> exact absurd h (by decide)
    · decide
  have hsplit : Text.splitAt '/' path = ["src", t.packageName, file] := by
    rw [Text.splitAt, hpath, List.append_assoc,
      show "src/".toList = ['s', 'r', 'c'] ++ ['/'] from rfl, List.append_assoc,
      List.singleton_append, Text.pieces_append_cons (by simp) (by decide),
      Text.pieces_append_cons (fun c hc => by simpa using (hname c hc).1) (by decide),
      Text.pieces_of_none fun c hc => by simpa using (hslash c hc).1]
    simp
  refine validatePath_eq_ok_iff.2 ⟨?_, ?_, ?_⟩
  · rw [hpath, List.mem_append, List.mem_append, List.mem_cons]
    rintro ((hc | hc) | hc | hc)
    · exact absurd hc (by decide)
    · exact (hname _ hc).2.1 rfl
    · exact absurd hc (by decide)
    · exact (hslash _ hc).2 rfl
  · rintro ⟨c, rest, heq, -⟩
    have hsecond : path.toList[1]? = some 'r' := by rw [hpath]; rfl
    rw [heq] at hsecond
    cases hsecond
  · have hdot : '.' ∉ t.packageName.toList := fun hc => (hname _ hc).2.2 rfl
    rw [hsplit]
    simp only [List.forall_mem_cons, List.not_mem_nil, false_imp_iff, implies_true, and_true]
    refine ⟨by decide, ⟨packageName_ne_empty h, ?_, ?_⟩, hfile⟩ <;>
      exact fun heq => hdot (by rw [heq]; decide)

/-- Files can be written to every place of the layout. -/
theorem writable_layout {t : CommandTree} (h : Field.isName t.cliName = true) :
    Writable (layout t) where
  nodup_components := by simp [layout]
  nodup_paths := by simp [layout, String.ext_iff, toString]
  validPath := by
    simp only [layout, List.forall_mem_cons, List.not_mem_nil, false_imp_iff, implies_true,
      and_true]
    refine ⟨?_, ?_, ?_, rfl, rfl⟩
    · exact validatePath_package h "cli.py" (by simp [toString]) (by simp) (by decide)
    · exact validatePath_package h "__init__.py" (by simp [toString]) (by simp) (by decide)
    · exact validatePath_package h "cli_hooks.py" (by simp [toString]) (by simp) (by decide)

end Python

/-- Every tree can be rendered for Python. -/
theorem python_total : python.Total where
  emit := Python.emit_ok
  compose hengine hroot fragments := Composition.python_sound.compose_ok Python.typed_engine
    Python.composition_fits hengine (hroot ▸ Wording.holds_root Python.wording _) fragments
  writable := Python.writable_layout

end CliGen.Target
