import CliGen.Proofs.Target.JavaScript
import CliGen.Proofs.Target.Python
import CliGen.Proofs.Target.Rust
import CliGen.Target.Builtin

/-!
# Rendering for the targets at hand

All targets of the registry are total, so what comes of rendering a tree is known from the names of
its hooks and its depth (`Registry.renders_of_mem_builtin`).
-/

namespace CliGen

namespace Target

/-- What comes of rendering a tree: a name that hooks share is a problem, then a command that is too
deep, and there is no other. Without a problem there is one file for each component. -/
structure Renders (t : Target) (tree : CommandTree) (options : RenderOptions) : Prop where
  nodup_components : ((t.layout tree).map (·.1)).Nodup
  hookNameCollision_iff :
    (∃ name first second,
      t.render tree options = .error (.hookNameCollision name first second)) ↔
    ∃ problem, Hook.Index.build tree (.make t.naming options.hookThreshold) = .error problem
  depthLimitExceeded_iff {index : Hook.Index} :
    Hook.Index.build tree (.make t.naming options.hookThreshold) = .ok index →
    ((∃ path limit, t.render tree options = .error (.depthLimitExceeded path limit)) ↔
      options.maxDepth < tree.maxDepth)
  files {index : Hook.Index} :
    Hook.Index.build tree (.make t.naming options.hookThreshold) = .ok index →
    tree.maxDepth ≤ options.maxDepth →
    ∃ files, t.render tree options = .ok files ∧ Artifact.Covers files (t.layout tree)

variable {t : Target} {tree : CommandTree} {options : RenderOptions}

/-- Rendering fails where no index can be built, by the problem of the index. -/
theorem render_of_problem {problem : Problem}
    (h : Hook.Index.build tree (.make t.naming options.hookThreshold) = .error problem) :
    t.render tree options = .error problem := by
  have hscene : t.scene tree options = .error problem := by
    rw [Target.scene, h]
    rfl
  rw [render, renderLogged, hscene]

/-- A total target renders every tree, up to the two problems. -/
theorem Total.renders (ht : t.Total) {maxDepth : Nat} {document : Value}
    (hbuild : CommandTree.build maxDepth document = .ok tree) (options : RenderOptions) :
    t.Renders tree options := by
  have hcomponents := (ht.writable (CommandTree.isName_of_build hbuild)).nodup_components
  cases hindex : Hook.Index.build tree (.make t.naming options.hookThreshold) with
  | error problem =>
    have hrender := render_of_problem hindex
    -- Nothing but a shared name keeps an index from being built.
    have hshared : ∃ name first second, problem = .hookNameCollision name first second := by
      let r := Hook.Resolver.make t.naming options.hookThreshold
      by_cases hnames : (tree.walk.map (r.settledName tree)).Nodup
      · rw [Hook.Index.build_eq_ok (CommandTree.nodup_paths_of_build hbuild) hnames] at hindex
        cases hindex
      · obtain ⟨c, d, -, herror⟩ :=
          Hook.Index.build_eq_error (CommandTree.nodup_paths_of_build hbuild) hnames
        rw [hindex] at herror
        cases herror
        exact ⟨_, _, _, rfl⟩
    obtain ⟨name, first, second, rfl⟩ := hshared
    refine ⟨hcomponents, ?_, fun h => ?_, fun h => ?_⟩
    · exact iff_of_true ⟨name, first, second, hrender⟩ ⟨_, hindex⟩
    · rw [hindex] at h
      cases h
    · rw [hindex] at h
      cases h
  | ok bindings =>
    rcases ht.render_of_bindings hbuild hindex with ⟨hfits, files, hfiles, hcovers⟩ | hfails
    · refine ⟨hcomponents, ?_, fun _ => ?_, fun _ _ => ⟨files, hfiles, hcovers⟩⟩
      · simp [hfiles, hindex]
      · simp [hfiles, Nat.not_lt.2 hfits]
    · obtain ⟨hdeep, c, -, -, herror⟩ := hfails
      refine ⟨hcomponents, ?_, fun _ => ?_, fun _ hfits => absurd hdeep (Nat.not_lt.2 hfits)⟩
      · simp [herror, hindex]
      · simp [herror, hdeep]

/-- A tree that is not too deep is rendered where its hooks are named. -/
theorem Renders.ok_iff (h : t.Renders tree options) (hfits : tree.maxDepth ≤ options.maxDepth) :
    (∃ files, t.render tree options = .ok files) ↔
      ∃ index, Hook.Index.build tree (.make t.naming options.hookThreshold) = .ok index := by
  cases hindex : Hook.Index.build tree (.make t.naming options.hookThreshold) with
  | error problem => simp [render_of_problem hindex]
  | ok index =>
    obtain ⟨files, hfiles, -⟩ := h.files hindex hfits
    exact iff_of_true ⟨files, hfiles⟩ ⟨index, rfl⟩

end Target

namespace Registry

/-- All targets render whatever is built. -/
theorem total_of_mem_builtin {entry : String × Target} (h : entry ∈ builtin) : entry.2.Total := by
  simp only [builtin, List.map_cons, List.map_nil, List.mem_cons, List.not_mem_nil, or_false] at h
  rcases h with rfl | rfl | rfl | rfl
  · exact Target.python_total
  · exact Target.nodejs_total
  · exact Target.typescript_total
  · exact Target.rust_total

/-- The registry finds its targets by their identifiers. -/
theorem get_of_mem_builtin {entry : String × Target} (h : entry ∈ builtin) :
    builtin.get entry.1 = .ok entry.2 := by
  simp only [builtin, List.map_cons, List.map_nil, List.mem_cons, List.not_mem_nil, or_false] at h
  rcases h with rfl | rfl | rfl | rfl <;> rfl

/-- Rendering by identifier succeeds for all targets at hand as soon as it does for each. -/
theorem forall_ids_render_iff {tree : CommandTree} {options : RenderOptions} :
    (∀ id ∈ builtin.ids, ∃ files, builtin.render tree options id = .ok files) ↔
      ∀ entry ∈ builtin, ∃ files, entry.2.render tree options = .ok files := by
  rw [ids, List.forall_mem_map]
  refine forall₂_congr fun entry hentry => ?_
  rw [render, get_of_mem_builtin hentry, Outcome.ok_bind]

end Registry

end CliGen
