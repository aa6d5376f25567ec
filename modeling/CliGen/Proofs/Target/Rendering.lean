import CliGen.Proofs.Artifact.Assembly
import CliGen.Proofs.Hook.Settled
import CliGen.Proofs.Target.Emission

/-!
# Rendering a tree

A target is total if its code and its files can be made for every tree (`Target.Total`). Rendering a
tree with a total target then fails in two ways only: the hooks of the tree cannot be named, or one
of its commands is too deep (`Target.Total.render_of_bindings`).
-/

namespace CliGen

open Outcome

/-- Files stand for the components of a layout: each component has one file, at its path. -/
def Artifact.Covers (files : List Artifact) (layout : List (String × String)) : Prop :=
  (files.map fun a => (a.component?, a.path)).Perm (layout.map fun e => (some e.1, e.2))

namespace Target

/-- A layout that can be written: its components and its paths are pairwise different, and the paths
are plain. -/
structure Writable (layout : List (String × String)) : Prop where
  nodup_components : (layout.map (·.1)).Nodup
  nodup_paths : (layout.map (·.2)).Nodup
  validPath : ∀ e ∈ layout, validatePath e.2 = .ok ()

/-- Files that a target composes: one for each component, and what users run among them. -/
structure Composed (layout : List (String × String)) (files : List Artifact) : Prop where
  covers : Artifact.Covers files layout
  mayBeExecutable : ∀ a ∈ files, a.executable = true → a.kind.mayBeExecutable = true
  entryPoint : ∃ a ∈ files, a.kind = .entryPoint
  bootstrap : ∃ a ∈ files, a.kind = .bootstrap

/-- The code and the files of a target can be made whatever the tree is. -/
structure Total (t : Target) : Prop where
  emit : ∀ {scene : Scene}, scene.engine = t.engine → ∀ c b children,
    ∃ fragment, t.emit scene c b children = .ok fragment
  compose : ∀ {scene : Scene}, scene.engine = t.engine → scene.root = t.root scene.tree →
    ∀ fragments, ∃ files, t.compose scene fragments = .ok files ∧
      Composed (t.layout scene.tree) files
  writable : ∀ {tree : CommandTree}, Field.isName tree.cliName = true → Writable (t.layout tree)

/-- Files at the places of a layout are acceptable. -/
theorem Composed.acceptable {layout : List (String × String)} {files : List Artifact}
    (h : Composed layout files) (hlayout : Writable layout) : Artifact.Acceptable files := by
  have hpaths : (files.map (·.path)).Perm (layout.map (·.2)) := by
    have hmapped := h.covers.map (·.2)
    rwa [List.map_map, List.map_map] at hmapped
  refine ⟨fun a ha => ?_, hpaths.nodup_iff.2 hlayout.nodup_paths, h.mayBeExecutable,
    h.entryPoint, h.bootstrap⟩
  obtain ⟨e, he, heq⟩ := List.mem_map.1 (hpaths.subset (List.mem_map_of_mem ha))
  rw [← heq]
  exact hlayout.validPath e he

/-- Telling files for which target they are moves none of them. -/
theorem Composed.covers_withMeta {layout : List (String × String)} {files : List Artifact}
    (h : Composed layout files) (target : String) :
    Artifact.Covers (files.map (·.withMeta "target" target)) layout := by
  have hsame : (files.map (·.withMeta "target" target)).map (fun a => (a.component?, a.path)) =
      files.map fun a => (a.component?, a.path) := by
    rw [List.map_map]
    refine List.map_congr_left fun a _ => ?_
    exact Prod.ext (a.component?_withMeta (by decide) target) rfl
  rw [Artifact.Covers, hsame]
  exact h.covers

/-- Where all commands were generated, nothing is left to fail but the files themselves. -/
theorem finish_nodeCount {t : Target} {scene : Scene} (fragments : List Fragment) :
    t.finish scene scene.tree.nodeCount fragments =
      (t.compose scene fragments).mapError (·.intoRender t.id []) >>= Artifact.assemble t.id := by
  rw [finish]
  simp only [bne_self_eq_false, Bool.false_eq_true, if_false]

/-- Acceptable files finish a rendering, each told for its target. -/
theorem finish_eq_ok {t : Target} {scene : Scene} {fragments : List Fragment}
    {files : List Artifact} (hfiles : t.compose scene fragments = .ok files)
    (haccepted : Artifact.Acceptable files) :
    t.finish scene scene.tree.nodeCount fragments =
      .ok (files.map (·.withMeta "target" t.id)) := by
  rw [finish_nodeCount, hfiles]
  exact Artifact.assemble_of_acceptable t.id haccepted

variable {t : Target} {tree : CommandTree} {options : RenderOptions}

/-- The files are made from the code of the whole forest. -/
theorem render_eq_bind {scene : Scene} (hscene : t.scene tree options = .ok scene) :
    t.render tree options =
      (emitForest t scene [] scene.tree.commands).1 >>=
        t.finish scene (emitForest t scene [] scene.tree.commands).2.length := by
  rw [render, renderLogged, hscene]
  dsimp only
  rw [emitTree_eq]
  rcases emitForest t scene [] scene.tree.commands with ⟨p | fragments, log⟩ <;> rfl

/-- What a target sees of a tree. -/
theorem scene_eq_ok {scene : Scene} : t.scene tree options = .ok scene ↔ ∃ bindings,
    Hook.Index.build tree (.make t.naming options.hookThreshold) = .ok bindings ∧
      scene = ⟨tree, bindings, t.engine, options, t.root tree⟩ := by
  rw [Target.scene, bind_eq_ok]
  refine exists_congr fun bindings => and_congr_right fun _ => ?_
  rw [pure_eq_ok, Except.ok.injEq, eq_comm]

/-- The files of a target are composed, and pass the last checks. -/
theorem assemble_of_finish {scene : Scene} {count : Nat} {fragments : List Fragment}
    {files : List Artifact} (h : t.finish scene count fragments = .ok files) :
    ∃ composed, t.compose scene fragments = .ok composed ∧
      Artifact.assemble t.id composed = .ok files := by
  unfold finish at h
  extract_lets nodes at h
  split at h
  next => cases h
  next =>
    obtain ⟨composed, hcomposed, h⟩ := bind_eq_ok.1 h
    exact ⟨composed, mapError_eq_ok.1 hcomposed, h⟩

/-- Files that pass the last checks are those that were composed, told for which target they are. -/
theorem finish_ok {scene : Scene} {count : Nat} {fragments : List Fragment} {files : List Artifact}
    (h : t.finish scene count fragments = .ok files) :
    ∃ composed, t.compose scene fragments = .ok composed ∧
      files = composed.map (·.withMeta "target" t.id) := by
  obtain ⟨composed, hcomposed, hassemble⟩ := assemble_of_finish h
  exact ⟨composed, hcomposed, Artifact.eq_of_assemble hassemble⟩

/-- The steps of a rendering that succeeds: the code of the forest, and the files from it. -/
theorem render_eq_ok {files : List Artifact} (h : t.render tree options = .ok files) :
    ∃ scene fragments log composed, t.scene tree options = .ok scene ∧
      emitForest t scene [] tree.commands = (.ok fragments, log) ∧
      t.compose scene fragments = .ok composed ∧
      files = composed.map (·.withMeta "target" t.id) := by
  cases hscene : t.scene tree options with
  | error p =>
    rw [render, renderLogged, hscene] at h
    cases h
  | ok scene =>
    rw [render_eq_bind hscene] at h
    obtain ⟨fragments, hfragments, h⟩ := bind_eq_ok.1 h
    obtain ⟨composed, hcomposed, hfiles⟩ := finish_ok h
    obtain ⟨bindings, -, rfl⟩ := scene_eq_ok.1 hscene
    exact ⟨_, fragments, _, composed, rfl, Prod.ext hfragments rfl, hcomposed, hfiles⟩

/-- The files of a tree pass the last checks. -/
theorem assemble_of_render {files : List Artifact} (h : t.render tree options = .ok files) :
    ∃ scene fragments composed, t.compose scene fragments = .ok composed ∧
      Artifact.assemble t.id composed = .ok files := by
  cases hscene : t.scene tree options with
  | error p =>
    rw [render, renderLogged, hscene] at h
    cases h
  | ok scene =>
    rw [render_eq_bind hscene] at h
    obtain ⟨fragments, -, h⟩ := bind_eq_ok.1 h
    obtain ⟨composed, hcomposed, hassemble⟩ := assemble_of_finish h
    exact ⟨scene, fragments, composed, hcomposed, hassemble⟩

/-- What comes of rendering a tree whose hooks are named. -/
theorem Total.render_of_bindings (ht : t.Total) {maxDepth : Nat} {document : Value}
    (hbuild : CommandTree.build maxDepth document = .ok tree) {bindings : Hook.Index}
    (hbindings : Hook.Index.build tree (.make t.naming options.hookThreshold) = .ok bindings) :
    (tree.maxDepth ≤ options.maxDepth ∧ ∃ files, t.render tree options = .ok files ∧
      Artifact.Covers files (t.layout tree)) ∨
    (options.maxDepth < tree.maxDepth ∧ ∃ c ∈ tree.walk, options.maxDepth ≤ c.depth ∧
      t.render tree options = .error (.depthLimitExceeded c.path options.maxDepth)) := by
  let scene : Scene := ⟨tree, bindings, t.engine, options, t.root tree⟩
  have hengine : scene.engine = t.engine := rfl
  have hscene : t.scene tree options = .ok scene := by
    rw [Target.scene, hbindings]
    rfl
  -- Every command is bound, and its code can be made.
  have hleave : ∀ c ∈ walkPending tree.commands, ∀ children,
      ∃ fragment, t.leave scene c children = .ok fragment := by
    intro c hc children
    have hfound : scene.bindings.get? c.path = some _ :=
      Hook.Index.get?_of_build (CommandTree.nodup_paths_of_build hbuild) hbindings hc
    obtain ⟨fragment, hfragment⟩ := ht.emit hengine c _ children
    exact ⟨fragment, by rw [leave, hfound]; dsimp only; rw [hfragment]; rfl⟩
  rw [render_eq_bind hscene, CommandTree.maxDepth_le_iff]
  rcases emitForest_of_leaves hleave [] with ⟨fragments, log, hall, hlength, hfits⟩ | hfails
  · obtain ⟨files, hfiles, hcomposed⟩ := ht.compose hengine rfl fragments
    have hcount : log.length = scene.tree.nodeCount := by
      rw [hlength, CommandTree.nodeCount, CommandTree.walk, length_walkPending]
      exact Nat.zero_add _
    have hwritable := ht.writable (CommandTree.isName_of_build hbuild)
    refine .inl ⟨hfits, _, ?_, hcomposed.covers_withMeta t.id⟩
    rw [hall, ok_bind, hcount]
    exact finish_eq_ok hfiles (hcomposed.acceptable hwritable)
  · obtain ⟨c, hc, hdeep, log, herror⟩ := hfails
    refine .inr ⟨?_, c, hc, hdeep, by rw [herror, error_bind]⟩
    rw [← Nat.not_le, CommandTree.maxDepth_le_iff]
    exact fun hfits => Nat.not_lt.2 hdeep (hfits c hc)

end Target

end CliGen
