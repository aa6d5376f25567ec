import CliGen.Proofs.Target.CommandCode
import CliGen.Proofs.Target.Composition

/-!
# The Node.js and TypeScript targets are total

Both dialects share the templates of commands and have files of their own. All of their templates
are safe for what they are filled in with, so every tree can be rendered (`Target.nodejs_total`,
`Target.typescript_total`).
-/

namespace CliGen.Target

namespace JavaScript

open Template Wording Outcome

/-! ## Templates -/

/-- What the helpers want. -/
def signatures : Signatures :=
  [("js_str", [.any]), ("js_default", [.any]), ("js_choices", [.any]), ("arg_syntax", [.any]),
   ("option_flags", [.any]), ("commander_parser", [.any])] ++ Helper.sharedSignatures

/-- What the templates of a dialect are filled in with. -/
def shapes (d : Dialect) : List (String × Shape) :=
  let files := match d with
    | .plain => []
    | .typed => [(d.template "tsconfig", rootShape)]
  [("commander/params", parametersShape), ("commander/command", commandShape),
   ("commander/group", commandShape), ("commander/managed", commandShape),
   (d.template "stub_command", commandShape), (d.template "stub_controller", commandShape),
   (d.template "cli", rootShape), (d.template "hooks", rootShape),
   (d.template "package", rootShape), (d.template "setup", rootShape)] ++ files

/-- The templates take what they are filled in with. -/
theorem typed_engine (d : Dialect) : (target d).engine.Typed signatures (shapes d) where
  describe :=
    List.rel_append (.cons ⟨rfl, Helper.takes_ofValue _⟩ (.cons ⟨rfl, Helper.takes_ofValue _⟩
      (.cons ⟨rfl, Helper.takes_ofValue _⟩ (.cons ⟨rfl, Helper.takes_ofValue _⟩
      (.cons ⟨rfl, Helper.takes_ofValue _⟩ (.cons ⟨rfl, Helper.takes_ofValue _⟩ .nil))))))
      Helper.describe_shared
  isSafe := by cases d <;> decide +kernel

variable {d : Dialect} {scene : Scene}

/-! ## Commands -/

private theorem commandContext_ok (h : scene.engine = (target d).engine) (c : Command)
    (b : Hook.Binding) :
    ∃ node, commandContext d scene c b = .ok node ∧ commandShape.Holds node := by
  unfold commandContext
  extract_lets node extended
  have hextended : commandShape.Holds extended :=
    (holds_command wording scene.tree.cliName c b).extend _ (by simp)
  exact (typed_engine d).extend_ok h "commander/params" (by simp [shapes])
    (holds_parameters hextended) hextended (by simp)

/-- The templates that are chosen. -/
def choose (d : Dialect) (c : Command) (b : Hook.Binding) : Choice where
  template := commandTemplate c
  hook := (commandStub d c b).map fun stub =>
    (stub.1, [("exports", s!"  {stub.2},\n")])

/-- The code of a command is that of the templates that are chosen. -/
theorem emit_eq (d : Dialect) :
    (target d).emit = emitChosen (commandContext d) (choose d) := by
  funext scene c b children
  rw [emitChosen_eq]
  show emit d scene c b children = _
  unfold emit choose
  cases commandStub d c b <;> rfl

private theorem choose_mem_shapes (c : Command) (b : Hook.Binding) :
    ((choose d c b).template, commandShape) ∈ shapes d ∧
      ∀ stub ∈ (choose d c b).hook, (stub.1, commandShape) ∈ shapes d := by
  unfold choose commandTemplate commandStub
  constructor
  · dsimp only
    split
    · simp [shapes]
    · split <;> simp [shapes]
  · dsimp only
    split
    · simp [shapes]
    · split <;> simp [shapes]

/-- The code of every command can be made. -/
theorem emit_ok (h : scene.engine = (target d).engine) (c : Command) (b : Hook.Binding)
    (children : List Fragment) :
    ∃ fragment, (target d).emit scene c b children = .ok fragment := by
  obtain ⟨htemplate, hhook⟩ := choose_mem_shapes (d := d) c b
  rw [emit_eq]
  exact exists_emitChosen (typed_engine d) h (commandContext_ok h c b) htemplate hhook children

/-! ## Files -/

/-- The templates of the files are safe, and there is one for each component of the layout. -/
theorem composition_fits (d : Dialect) : (Composition.javascript d).Fits (shapes d) where
  parameters := by simp [Composition.javascript, shapes]
  templates := by cases d <;> simp [Composition.javascript, shapes]
  globals := holds_globals
  added := by simp [Composition.javascript]
  lays tree := by
    cases d with
    | plain => exact ⟨_, .refl _, .cons ⟨rfl, rfl⟩ (.cons ⟨rfl, rfl⟩ (.cons ⟨rfl, rfl⟩
        (.cons ⟨rfl, rfl⟩ .nil)))⟩
    | typed =>
      -- The settings of the compiler stand behind the manifest here, and before it in the layout.
      exact ⟨_, .cons _ (.cons _ (.swap _ _ _)), .cons ⟨rfl, rfl⟩ (.cons ⟨rfl, rfl⟩
        (.cons ⟨rfl, rfl⟩ (.cons ⟨rfl, rfl⟩ (.cons ⟨rfl, rfl⟩ .nil))))⟩
  mayBeExecutable := by
    cases d <;> simp [Composition.javascript, ArtifactKind.mayBeExecutable]
  entryPoint := by simp [Composition.javascript]
  bootstrap := by simp [Composition.javascript]

/-- Files can be written to every place of the layout. -/
theorem writable_layout (d : Dialect) (t : CommandTree) : Writable (d.layout t) := by
  cases d with
  | plain => exact ⟨by simp [Dialect.layout], by simp [Dialect.layout],
      List.forall_iff_forall_mem.1 ⟨rfl, rfl, rfl, rfl⟩⟩
  | typed => exact ⟨by simp [Dialect.layout], by simp [Dialect.layout],
      List.forall_iff_forall_mem.1 ⟨rfl, rfl, rfl, rfl, rfl⟩⟩

/-- Both targets render whatever is built. -/
theorem total (d : Dialect) : (target d).Total where
  emit := emit_ok
  compose hengine hroot fragments := (Composition.javascript_sound d).compose_ok (typed_engine d)
    (composition_fits d) hengine (hroot ▸ holds_root wording _) fragments
  writable := fun {t} _ => writable_layout d t

end JavaScript

/-- Every tree can be rendered for Node.js. -/
theorem nodejs_total : nodejs.Total := JavaScript.total .plain

/-- Every tree can be rendered for TypeScript. -/
theorem typescript_total : typescript.Total := JavaScript.total .typed

end CliGen.Target
