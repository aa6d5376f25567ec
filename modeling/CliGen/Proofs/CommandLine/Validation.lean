import CliGen.CommandLine.Run
import CliGen.Proofs.Config.File
import CliGen.Proofs.Target.Builtin

/-!
# Validation and generation agree

A description that is valid has a tree whose hooks can be named for every target at hand
(`runValidate_ok_iff`). Its commands are not too deep for the settings by which the tree was built,
so every target renders it with these settings; and where a target cannot render a tree, validation
refuses the description (`validate_agrees_with_render`). This takes settings that are valid, as
those of every run are (`validate_of_findContext`).
-/

namespace CliGen.CommandLine

open Disk

variable {disk : Disk} {c : Context}

/-- The settings of every run are valid. -/
theorem validate_of_findContext {s : Surroundings} {i : Invocation}
    (h : disk.outcome (findContext s i) = .ok c) : c.config.validate = .ok () := by
  obtain ⟨project, -, h⟩ := outcome_bind_eq_ok.1 h
  obtain ⟨file, hfile, h⟩ := outcome_bind_eq_ok.1 h
  cases h
  exact ConfigFile.validate_of_load (outcome_adapt_eq_ok.1 hfile)

/-- A tree that is loaded was built with the ceiling of the settings. -/
theorem build_of_loadTree {input : String} {tree : CommandTree}
    (h : disk.outcome (loadTree c input) = .ok tree) :
    ∃ document, CommandTree.build c.config.generation.maxDepth document = .ok tree := by
  obtain ⟨document, -, hbuild⟩ := outcome_bind_eq_ok.1 (outcome_adapt_eq_ok.1 h)
  exact ⟨document, by rwa [outcome_ofExcept] at hbuild⟩

/-- With valid settings the ceiling of rendering is the ceiling of building. -/
theorem maxDepth_le_of_loadTree (hvalid : c.config.validate = .ok ()) {input : String}
    {tree : CommandTree} (h : disk.outcome (loadTree c input) = .ok tree) :
    tree.maxDepth ≤ c.config.generation.maxDepth := by
  have hpositive : c.config.generation.maxDepth ≠ 0 := by
    intro hzero
    rw [Config.validate, if_pos hzero] at hvalid
    cases hvalid
  obtain ⟨document, hbuild⟩ := build_of_loadTree h
  refine (CommandTree.maxDepth_le_iff _ _).2 fun d hd => ?_
  have hdepth := CommandTree.depth_lt_of_build hbuild hd
  omega

/-- A description is valid if its tree can be built and its hooks can be named for each target. -/
theorem runValidate_ok_iff {input : String} :
    (∃ result, disk.outcome (runValidate c input) = .ok result) ↔
      ∃ tree, disk.outcome (loadTree c input) = .ok tree ∧
        ∀ entry ∈ Registry.builtin, ∃ index, Hook.Index.build tree
          (.make entry.2.naming c.config.generation.hookThreshold) = .ok index := by
  -- The checks of a tree take no notice of the disk.
  have hcheck (tree : CommandTree) (entry : String × Target) (d : Disk) :
      (∃ index, d.outcome (stepIn s!"Hook names clash for target '{entry.1}'"
        (MonadExcept.ofExcept (Hook.Index.build tree
          (.make entry.2.naming c.config.generation.hookThreshold)))) = .ok index) ↔
      ∃ index, Hook.Index.build tree
        (.make entry.2.naming c.config.generation.hookThreshold) = .ok index := by
    simp only [stepIn, outcome_adapt_eq_ok, outcome_ofExcept]
  unfold runValidate
  simp only [outcome_bind_eq_ok, outcome_pure, Except.ok.injEq, outcome_forIn_eq_ok (hcheck _)]
  constructor
  · rintro ⟨result, tree, htree, u, hindexes, -⟩
    exact ⟨tree, htree, hindexes⟩
  · rintro ⟨tree, htree, hindexes⟩
    exact ⟨_, tree, htree, PUnit.unit, hindexes, rfl⟩

/-- Rendering for a target at hand meets no problem but the two that are told of, so a description
is valid if every target renders its tree with the same settings. -/
theorem validate_agrees_with_render :
    (∀ {maxDepth : Nat} {document : Value} {tree : CommandTree},
      CommandTree.build maxDepth document = .ok tree →
      ∀ entry ∈ Registry.builtin, ∀ options, entry.2.Renders tree options) ∧
    ∀ {c : Context}, c.config.validate = .ok () → ∀ (input : String) (disk : Disk),
      ((∃ result, disk.outcome (runValidate c input) = .ok result) ↔
        ∃ tree, disk.outcome (loadTree c input) = .ok tree ∧
          ∀ id ∈ Registry.builtin.ids, ∃ files, Registry.builtin.render tree
            (Settings.ofConfig c.config.generation).options id = .ok files) := by
  have hrenders {maxDepth : Nat} {document : Value} {tree : CommandTree}
      (hbuild : CommandTree.build maxDepth document = .ok tree) (entry : String × Target)
      (hentry : entry ∈ Registry.builtin) (options : RenderOptions) :
      entry.2.Renders tree options :=
    (Registry.total_of_mem_builtin hentry).renders hbuild options
  refine ⟨hrenders, fun {c} hvalid input disk => ?_⟩
  rw [runValidate_ok_iff]
  refine exists_congr fun tree => and_congr_right fun htree => ?_
  obtain ⟨document, hbuild⟩ := build_of_loadTree htree
  have hfits := maxDepth_le_of_loadTree hvalid htree
  rw [Registry.forall_ids_render_iff]
  refine forall₂_congr fun entry hentry => ?_
  have hentry := hrenders hbuild entry hentry (Settings.ofConfig c.config.generation).options
  have hrendered := hentry.ok_iff hfits
  exact hrendered.symm

/-- A disk with a description of a managed command beside a standard one. -/
def described : Disk where
  storage := [(["cli.yaml"], .file (String.toUTF8 (
    "name: tool\ncommands:\n  db:\n    desc: Databases\n    subcommands:\n" ++
    "      serve:\n        desc: Serve\n        lifecycle: managed\n" ++
    "      dry-run:\n        desc: Try\n")) Storage.plainMode)]
  directory := []
  faults := []

/-- A description that is accepted, and that every target renders. -/
theorem validate_agrees_with_render_described :
    let c : Context := ⟨none, ⟨"forge.toml", Config.standard, .defaults⟩⟩
    ∃ tree, described.outcome (loadTree c "cli.yaml") = .ok tree ∧
      (∀ entry ∈ Registry.builtin, entry.2.Renders tree ⟨3, 1⟩) ∧
      ∀ id ∈ Registry.builtin.ids, ∃ files, Registry.builtin.render tree
        (Settings.ofConfig c.config.generation).options id = .ok files := by
  intro c
  have haccepted : (described.outcome (runValidate c "cli.yaml")).toBool = true := by
    decide +kernel
  obtain ⟨tree, htree, hrendered⟩ :=
    (validate_agrees_with_render.2 (c := c) rfl "cli.yaml" described).1
      (Outcome.toBool_eq_true.1 haccepted)
  obtain ⟨document, hbuild⟩ := build_of_loadTree htree
  refine ⟨tree, htree, fun entry hentry => ?_, hrendered⟩
  exact validate_agrees_with_render.1 hbuild entry hentry _

end CliGen.CommandLine
