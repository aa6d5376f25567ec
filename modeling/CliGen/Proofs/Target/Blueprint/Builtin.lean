import CliGen.Proofs.Target.Blueprint.JavaScript
import CliGen.Proofs.Target.Blueprint.Python
import CliGen.Proofs.Target.Blueprint.Rust
import CliGen.Proofs.Target.Builtin
import CliGen.Proofs.Tree.Invariants

/-!
# The blueprints of the targets at hand

Each target of the registry has a blueprint (`Blueprint.map_builtin`) and keeps to it
(`Blueprint.sound_of_mem_builtin`).
-/

namespace CliGen.Blueprint

/-- The blueprints of all targets of this library. -/
def builtin : List Blueprint := [python, javascript .plain, javascript .typed, rust]

/-- They are the blueprints of the targets of the registry, in its order. -/
theorem map_builtin : builtin.map (fun w => (w.target.id, w.target)) = Registry.builtin := rfl

variable {w : Blueprint}

/-- All blueprints tell what their targets make. -/
theorem sound_of_mem_builtin (h : w ∈ builtin) : w.Sound := by
  simp only [builtin, List.mem_cons, List.not_mem_nil, or_false] at h
  rcases h with rfl | rfl | rfl | rfl
  · exact python_sound
  · exact javascript_sound .plain
  · exact javascript_sound .typed
  · exact rust_sound

/-- Every blueprint is that of a registered target. -/
theorem mem_registry (h : w ∈ builtin) : (w.target.id, w.target) ∈ Registry.builtin := by
  rw [← map_builtin]
  exact List.mem_map_of_mem h

/-- Rendering by identifier is rendering with the target of the blueprint. -/
theorem render_registry (h : w ∈ builtin) (tree : CommandTree) (options : RenderOptions) :
    Registry.builtin.render tree options w.target.id = w.target.render tree options := by
  rw [Registry.render, Registry.get_of_mem_builtin (mem_registry h), Outcome.ok_bind]

/-- A tree that is built is rendered where its hooks are named and it is not too deep. -/
theorem exists_render (hw : w ∈ builtin) {maxDepth : Nat} {document : Value} {tree : CommandTree}
    (hbuild : CommandTree.build maxDepth document = .ok tree) {options : RenderOptions}
    (hindex : (Hook.Index.build tree (.make w.target.naming options.hookThreshold)).toBool = true)
    (hfits : tree.maxDepth ≤ options.maxDepth) :
    ∃ files, Registry.builtin.render tree options w.target.id = .ok files := by
  obtain ⟨index, hindex⟩ := Outcome.toBool_eq_true.1 hindex
  have htotal := Registry.total_of_mem_builtin (mem_registry hw)
  obtain ⟨files, hfiles, -⟩ := (htotal.renders hbuild options).files hindex hfits
  exact ⟨files, by rw [render_registry hw, hfiles]⟩

/-- Every target at hand renders a group with a managed and a standard command below it. -/
theorem exists_render_equipped : ∃ tree, CommandTree.build 2 CommandTree.equipped = .ok tree ∧
    tree.walk.map (fun c => (c.path, c.role)) =
      [(["db"], .group), (["db", "serve"], .managed), (["db", "dry-run"], .leaf)] ∧
    ∀ w ∈ builtin, ∃ files, Registry.builtin.render tree ⟨3, 2⟩ w.target.id = .ok files := by
  have hbuilt : (CommandTree.build 2 CommandTree.equipped).toOption.any (fun tree =>
      tree.walk.map (fun c => (c.path, c.role)) =
        [(["db"], .group), (["db", "serve"], .managed), (["db", "dry-run"], .leaf)] ∧
      tree.maxDepth ≤ 2 ∧ ∀ w ∈ builtin,
        (Hook.Index.build tree (.make w.target.naming 3)).toBool = true) = true := by
    decide +kernel
  simp only [Option.any_eq_true, Outcome.toOption_eq_some, decide_eq_true_eq] at hbuilt
  obtain ⟨tree, hbuild, hwalk, hfits, hindex⟩ := hbuilt
  exact ⟨tree, hbuild, hwalk, fun w hw => exists_render hw hbuild (hindex w hw) hfits⟩

end CliGen.Blueprint
