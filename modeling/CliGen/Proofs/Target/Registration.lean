import CliGen.Proofs.Target.Blueprint.Builtin
import CliGen.Proofs.Target.Variables

/-!
# Commands are registered in the order of the walk

The program that a target generates holds one text for each command, from the command's own template
and in the order of the walk. So every command is registered once, after the command above it, whose
variable it may use (`Blueprint.registered_in_order`).
-/

namespace CliGen

/-- Two items that stand one after the other in a list do so with what belongs to them. -/
theorem exists_pair_sublist_zip {α β : Type} {as : List α} {bs : List β}
    (hlength : as.length = bs.length) {a a' : α} (h : [a, a'].Sublist as) :
    ∃ b b', [(a, b), (a', b')].Sublist (as.zip bs) := by
  rw [← List.map_fst_zip hlength.le, List.sublist_map_iff] at h
  obtain ⟨pairs, hpairs, heq⟩ := h
  match pairs, heq with
  | [(_, b), (_, b')], rfl => exact ⟨b, b', hpairs⟩

namespace Blueprint

/-- A text registers a command: it is what the template of the command's role makes of what stands
for the command. It names the variable that the command is added to as the target does, and defines
the variable of the command. -/
structure Registers (w : Blueprint) (scene : Scene) (c : Command) (block : String) : Prop where
  rendered : ∃ b node, scene.bindings.get? c.path = some b ∧ w.context scene c b = .ok node ∧
    w.wording.Tells c b node ∧ scene.engine.render (w.template c.role) node = .ok block
  text_eq : ∃ middle rest, block =
    w.opening c.role (w.wording.parentVariable c) (parserVariable c.path) ++
      (middle ++ w.header c.role (parserVariable c.path) ++ rest)

variable {w : Blueprint} {scene : Scene} {c : Command} {b : Hook.Binding}

/-- The code of a command registers it under its parent's variable. -/
theorem Sound.registers (hw : w.Sound) (hengine : scene.engine = w.target.engine)
    (hbinding : scene.bindings.get? c.path = some b) {own : Fragment} (h : w.Code scene c b own) :
    w.Registers scene c (own.code "commands") := by
  obtain ⟨node, hnode, hcode, -⟩ := h.rendered
  exact ⟨⟨b, node, hbinding, hnode, hw.tells hnode, hcode⟩,
    hw.command_text hengine hnode hcode⟩

/-- **Every command is registered once, after its parent.** The code of the program consists of one
text for each command of the tree, in the order of the walk; the program is its template filled in
with that code. All commands have variables of their own, and the text of a command comes after that
of its parent, to whose variable it is added. -/
theorem registered_in_order (hw : w ∈ builtin) {maxDepth : Nat} {document : Value}
    {tree : CommandTree} (hbuild : CommandTree.build maxDepth document = .ok tree)
    {options : RenderOptions} {files : List Artifact}
    (h : Registry.builtin.render tree options w.target.id = .ok files) :
    ∃ scene blocks, w.target.scene tree options = .ok scene ∧
      List.Forall₂ (w.Registers scene) tree.walk blocks ∧
      (∃ program ∈ files, w.ShowsProgram scene.engine (String.join blocks) program) ∧
      (tree.walk.map fun c => parserVariable c.path).Nodup ∧
      ∀ c ∈ tree.walk, c.parentPath ≠ [] → ∃ p block block', c ∈ p.subcommands ∧
        w.wording.parentVariable c = parserVariable p.path ∧
        [(p, block), (c, block')].Sublist (tree.walk.zip blocks) := by
  have hsound := sound_of_mem_builtin hw
  rw [render_registry hw] at h
  obtain ⟨scene, own, hscene, hengine, -, hown, hprogram, -⟩ := hsound.render_ok hbuild h
  have hblocks : List.Forall₂ (w.Registers scene) tree.walk (own.map (·.code "commands")) := by
    rw [List.forall₂_map_right_iff]
    exact hown.imp fun c f hf => hsound.registers hengine hf.1 hf.2
  refine ⟨scene, _, hscene, hblocks, hprogram, CommandTree.nodup_variables_of_build hbuild, ?_⟩
  intro c hc hbelow
  obtain ⟨p, hchild, hpath, horder⟩ := CommandTree.Level.exists_parent hbuild hc hbelow
  obtain ⟨block, block', hpair⟩ := exists_pair_sublist_zip hblocks.length_eq horder
  refine ⟨p, block, block', hchild, ?_, hpair⟩
  rw [Wording.parentVariable, if_neg (by simpa using hbelow), hpath]

/-- A managed command and a standard one below a group. -/
theorem registered_in_order_equipped : ∃ tree files scene blocks,
    CommandTree.build 2 CommandTree.equipped = .ok tree ∧
    tree.walk.map (fun c => (c.path, c.role)) =
      [(["db"], .group), (["db", "serve"], .managed), (["db", "dry-run"], .leaf)] ∧
    Registry.builtin.render tree ⟨3, 2⟩ "python" = .ok files ∧
    List.Forall₂ (python.Registers scene) tree.walk blocks ∧
    ∃ program ∈ files, python.ShowsProgram scene.engine (String.join blocks) program := by
  obtain ⟨tree, hbuild, hwalk, hrender⟩ := exists_render_equipped
  have hmem : python ∈ builtin := List.mem_cons_self
  obtain ⟨files, hfiles⟩ := hrender python hmem
  obtain ⟨scene, blocks, -, hblocks, hprogram, -⟩ := registered_in_order hmem hbuild hfiles
  exact ⟨tree, files, scene, blocks, hbuild, hwalk, hfiles, hblocks, hprogram⟩

end Blueprint

end CliGen
