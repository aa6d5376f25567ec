import CliGen.Proofs.Target.CommandCode
import CliGen.Proofs.Target.Composition

/-!
# The Rust target is total

Every template of the target is safe for what it is filled in with, so every tree can be rendered
(`Target.rust_total`). The short form of an option is asked for as a text, and only where there is
one.
-/

namespace CliGen.Target

namespace Rust

open Template Wording Outcome

/-! ## Templates -/

/-- What the helpers want. -/
def signatures : Signatures :=
  [("rs_str", [.any]), ("rs_char", [.text]), ("rs_slice", [.list .any]), ("rs_parser", [.any]),
   ("rs_type", [.any]), ("rs_default_call", [.any])] ++ Helper.sharedSignatures

/-- What the templates are filled in with. -/
def shapes : List (String × Shape) :=
  [("rust/args", parametersShape), ("rust/command", commandShape), ("rust/managed", commandShape),
   ("rust/stub_command", commandShape), ("rust/stub_controller", commandShape),
   ("rust/main", rootShape), ("rust/hooks", rootShape), ("rust/manifest", rootShape),
   ("rust/setup", rootShape)]

/-- The templates take what they are filled in with. -/
theorem typed_engine : rust.engine.Typed signatures shapes where
  describe :=
    List.rel_append (.cons ⟨rfl, Helper.takes_ofValue _⟩ (.cons ⟨rfl, Helper.takes_ofText _⟩
      (.cons ⟨rfl, Helper.takes_ofList _⟩ (.cons ⟨rfl, Helper.takes_ofValue _⟩
      (.cons ⟨rfl, Helper.takes_ofValue _⟩ (.cons ⟨rfl, Helper.takes_ofValue _⟩ .nil))))))
      Helper.describe_shared
  isSafe := by decide +kernel

variable {scene : Scene}

/-! ## Commands -/

private theorem commandContext_ok (h : scene.engine = rust.engine) (c : Command)
    (b : Hook.Binding) :
    ∃ node, commandContext scene c b = .ok node ∧ commandShape.Holds node := by
  unfold commandContext
  extract_lets node
  have hnode : commandShape.Holds node := holds_command wording scene.tree.cliName c b
  exact typed_engine.extend_ok h "rust/args" (by simp [shapes]) (holds_parameters hnode) hnode
    (by simp)

/-- The templates that are chosen. -/
def choose (c : Command) (b : Hook.Binding) : Choice where
  template := if b.isManaged then "rust/managed" else "rust/command"
  hook := (commandStub c b).map fun stub => (stub.1, [("registrations", stub.2)])

/-- The code of a command is that of the templates that are chosen. -/
theorem emit_eq : rust.emit = emitChosen commandContext choose := by
  funext scene c b children
  rw [emitChosen_eq]
  show emit scene c b children = _
  unfold emit choose
  cases commandStub c b <;> rfl

private theorem choose_mem_shapes (c : Command) (b : Hook.Binding) :
    ((choose c b).template, commandShape) ∈ shapes ∧
      ∀ stub ∈ (choose c b).hook, (stub.1, commandShape) ∈ shapes := by
  unfold choose commandStub
  constructor
  · dsimp only
    split <;> simp [shapes]
  · dsimp only
    split
    · simp [shapes]
    · split <;> simp [shapes]

/-- The code of every command can be made. -/
theorem emit_ok (h : scene.engine = rust.engine) (c : Command) (b : Hook.Binding)
    (children : List Fragment) : ∃ fragment, rust.emit scene c b children = .ok fragment := by
  obtain ⟨htemplate, hhook⟩ := choose_mem_shapes c b
  rw [emit_eq]
  exact exists_emitChosen typed_engine h (commandContext_ok h c b) htemplate hhook children

/-! ## Files -/

/-- The templates of the files are safe, and there is one for each component of the layout. -/
theorem composition_fits : Composition.rust.Fits shapes where
  parameters := by simp [Composition.rust, shapes]
  templates := by simp [Composition.rust, shapes]
  globals {_} hroot := by
    refine .fields (List.forall_iff_forall_mem.1 ?_)
    exact ⟨.list (by simp), hroot.field "global_options"⟩
  added := by simp [Composition.rust]
  lays _ := ⟨_, .refl _, .cons ⟨rfl, rfl⟩ (.cons ⟨rfl, rfl⟩ (.cons ⟨rfl, rfl⟩
    (.cons ⟨rfl, rfl⟩ .nil)))⟩
  mayBeExecutable := by simp [Composition.rust, ArtifactKind.mayBeExecutable]
  entryPoint := by simp [Composition.rust]
  bootstrap := by simp [Composition.rust]

/-- What stands for the command line tells the version of the crate as well. -/
theorem holds_root (t : CommandTree) : rootShape.Holds (root t) :=
  (Wording.holds_root wording t).extend _ (by simp)

/-- Files can be written to every place of the layout. -/
theorem writable_layout (t : CommandTree) : Writable (layout t) :=
  ⟨by simp [layout], by simp [layout], List.forall_iff_forall_mem.1 ⟨rfl, rfl, rfl, rfl⟩⟩

end Rust

/-- Every tree can be rendered for Rust. -/
theorem rust_total : rust.Total where
  emit := Rust.emit_ok
  compose hengine hroot fragments := Composition.rust_sound.compose_ok Rust.typed_engine
    Rust.composition_fits hengine (hroot ▸ Rust.holds_root _) fragments
  writable := fun {t} _ => Rust.writable_layout t

end CliGen.Target
