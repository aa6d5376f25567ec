import CliGen.Generation
import CliGen.Proofs.Artifact.Batches
import CliGen.Target.Builtin

/-!
# Runs

A run passes through a list of storages, one after each file that it writes (`Run.course`), and runs
follow each other (`Run.history`). What a run does not write at all is settled when it looks for
files of the user, before the first file of a target is written (`Merged.of_mem_below`).
-/

namespace CliGen

/-! ## What is kept back -/

namespace Merged

/-- Telling which files stand changes nothing, and keeps their order. -/
theorem run_filterAuxM_has (d : Disk) (directory : String) (paths kept : List String) :
    (List.filterAuxM (fun path => Files.has (Path.join directory path)) paths kept :
      StateM Disk _).run d =
        ((paths.filter fun path => (d.get? (Path.join directory path)).isSome).reverse ++ kept,
          d) := by
  induction paths generalizing kept with
  | nil => rfl
  | cons path paths ih =>
    have hstep : (List.filterAuxM (fun path => Files.has (Path.join directory path))
        (path :: paths) kept : StateM Disk _).run d =
          (List.filterAuxM (fun path => Files.has (Path.join directory path)) paths
            (bif (d.get? (Path.join directory path)).isSome then path :: kept else kept) :
              StateM Disk _).run d := rfl
    rw [hstep, ih]
    cases h : (d.get? (Path.join directory path)).isSome <;> simp [h]

/-- The look at what exists changes nothing. -/
theorem run_below (d : Disk) (directory : String) (files : List Artifact) :
    (below directory files : StateM Disk Merged).run d =
      (.of ((files.map (·.path)).filter fun path =>
        (d.get? (Path.join directory path)).isSome).contains files, d) := by
  have hlook := run_filterAuxM_has d directory (files.map (·.path)) []
  rw [below, StateT.run_bind, List.filterM, StateT.run_bind, hlook]
  change (Merged.of (List.reverse (List.reverse _ ++ [])).contains files, d) = _
  rw [List.append_nil, List.reverse_reverse]

/-- A file that belongs to the user is written only where nothing was found. -/
theorem of_mem_below {d : Disk} {directory : String} {files : List Artifact} {a : Artifact}
    (ha : a ∈ ((below directory files : StateM Disk Merged).run d).1.artifacts) :
    a ∈ files ∧ (a.kind = .hookStub → d.get? (Path.join directory a.path) = none) := by
  rw [run_below, Merged.of, List.mem_filter] at ha
  refine ⟨ha.1, fun hkind => ?_⟩
  have hfree := ha.2
  rw [Artifact.isKeptBack, Artifact.policy, hkind] at hfree
  by_contra hstands
  have hfound : a.path ∈ (files.map (·.path)).filter fun path =>
      (d.get? (Path.join directory path)).isSome :=
    List.mem_filter.2 ⟨List.mem_map_of_mem ha.1, Option.isSome_iff_ne_none.2 hstands⟩
  rw [List.contains_iff_mem.2 hfound] at hfree
  cases hfree

/-- Where nothing is found nothing is kept back. -/
theorem artifacts_below_of_none {d : Disk} {directory : String} {files : List Artifact}
    (h : ∀ path ∈ files.map (·.path), d.get? (Path.join directory path) = none) :
    ((below directory files : StateM Disk Merged).run d).1.artifacts = files := by
  have hnone : (files.map (·.path)).filter
      (fun path => (d.get? (Path.join directory path)).isSome) = [] := by
    rw [List.filter_eq_nil_iff]
    intro path hpath
    rw [h path hpath]
    exact Bool.false_ne_true
  rw [run_below, hnone]
  simp [Merged.of, Artifact.isKeptBack]

/-- What is left to write is part of what was rendered, in the same order. -/
theorem sublist_below (d : Disk) (directory : String) (files : List Artifact) :
    ((below directory files : StateM Disk Merged).run d).1.artifacts.Sublist files := by
  rw [run_below]
  exact List.filter_sublist

end Merged

namespace Writer

/-- The files of a target are written below its directory, except those that are kept back. -/
theorem after_deliver (d : Disk) (w : Writer) (directory : String) (files : List Artifact) :
    d.after (w.deliver directory files) = d.after (w.writeAll directory
      ((Merged.below directory files : StateM Disk Merged).run d).1.artifacts) := by
  have hlook : d.outcome (ExceptT.lift (Merged.below directory files) :
      ExceptT Problem (StateM Disk) Merged) = .ok _ := Disk.outcome_lift d _
  rw [deliver, Disk.after_bind_of_ok hlook, Disk.after_lift, Merged.run_below]
  cases hwrite : d.outcome (w.writeAll directory _) with
  | error problem => rw [Disk.after_bind_of_error hwrite]
  | ok report =>
    rw [Disk.after_bind_of_ok hwrite]
    rfl

end Writer

/-! ## Runs -/

/-- A run: what it is told, and the system that it meets. -/
structure Run where
  settings : Settings
  writer : Writer
  tree : CommandTree
  root : String
  targets : List String
  /-- The directory to work in. -/
  directory : Location
  /-- What fails on the way. -/
  faults : List (Option SystemError)

namespace Run

/-- The disk on which a run starts. -/
def start (r : Run) (s : Storage) : Disk := ⟨s, r.directory, r.faults⟩

/-- The disk after targets were delivered. -/
def deliver (r : Run) (targets : List String) (d : Disk) : Disk :=
  ((Registry.builtin.deliver r.settings r.writer r.tree r.root targets :
    StateM Disk _).run d).2

/-- The storage that a run leaves behind. -/
def leaves (r : Run) (s : Storage) : Storage := (r.deliver r.targets (r.start s)).storage

/-- The storages that the delivery of a target passes through, one after each file. -/
def passes (r : Run) (id : String) (d : Disk) : List Storage :=
  match Registry.builtin.render r.tree r.settings.options id with
  | .error _ => []
  | .ok files =>
    let directory := Path.join r.root id
    let written := ((Merged.below directory files : StateM Disk Merged).run d).1.artifacts
    (List.range (written.length + 1)).map fun n =>
      (d.after (r.writer.writeAll directory (written.take n))).storage

/-- The storages that a run passes through while it delivers targets. -/
def course (r : Run) : List String → Disk → List Storage
  | [], d => [d.storage]
  | id :: targets, d => r.passes id d ++ r.course targets (r.deliver [id] d)

/-- The storages that runs pass through, one run after the other. -/
def history : List Run → Storage → List Storage
  | [], s => [s]
  | r :: runs, s => r.course r.targets (r.start s) ++ history runs (r.leaves s)

/-- Whoever runs works in a directory that exists, and so does the part of the path of the output
directory that holds steps back to parent directories. -/
structure Ready (r : Run) (s : Storage) : Prop where
  directory : s.get? r.directory = some .directory
  anchored : (r.start s).Anchored r.root

/-- Each of some runs is ready when it starts. -/
def AllReady : List Run → Storage → Prop
  | [], _ => True
  | r :: runs, s => r.Ready s ∧ AllReady runs (r.leaves s)

variable {r : Run} {d : Disk} {id : String} {targets : List String} {l : Location}

/-- What becomes of one target. -/
def handOver (r : Run) (id : String) : StateM Disk (String × Outcome Delivery) :=
  match Registry.builtin.render r.tree r.settings.options id with
  | .error problem => return (id, .error problem)
  | .ok files => return (id, ← (r.writer.deliver (Path.join r.root id) files).run)

/-- Delivering hands over one target after the other. -/
theorem deliver_eq : r.deliver targets d = ((targets.mapM r.handOver).run d).2 := by
  rw [deliver, Registry.deliver, Registry.generate, List.mapM_map]
  rfl

/-- The first target is handed over before the others. -/
theorem deliver_cons (r : Run) (id : String) (targets : List String) (d : Disk) :
    r.deliver (id :: targets) d = r.deliver targets (r.deliver [id] d) := by
  simp only [deliver_eq, List.mapM_cons, StateT.run_bind]
  rfl

/-- A target that cannot be rendered leaves the disk as it is. -/
theorem deliver_of_error {problem : Problem}
    (h : Registry.builtin.render r.tree r.settings.options id = .error problem) :
    r.deliver [id] d = d := by
  rw [deliver_eq, List.mapM_cons, handOver, h]
  rfl

/-- A target that is rendered writes those of its files that are not kept back. -/
theorem deliver_of_ok {files : List Artifact}
    (h : Registry.builtin.render r.tree r.settings.options id = .ok files) :
    r.deliver [id] d = d.after (r.writer.writeAll (Path.join r.root id)
      ((Merged.below (Path.join r.root id) files : StateM Disk Merged).run d).1.artifacts) := by
  rw [deliver_eq, List.mapM_cons, handOver, h, ← Writer.after_deliver]
  rfl

/-- The course of a run ends with what the run leaves behind. -/
theorem getLast?_course : (r.course targets d).getLast? = some (r.deliver targets d).storage := by
  induction targets generalizing d with
  | nil => rfl
  | cons id targets ih =>
    rw [course, List.getLast?_append, ih, Option.some_or, deliver_cons r id targets]

/-- A target that is delivered takes no directory away. -/
theorem exists_keeps_deliver (r : Run) (id : String) (d : Disk) :
    ∃ paths, d.Keeps paths (r.deliver [id] d) := by
  cases hrender : Registry.builtin.render r.tree r.settings.options id with
  | error problem =>
    rw [deliver_of_error hrender]
    exact ⟨[], Disk.Keeps.refl d []⟩
  | ok files =>
    rw [deliver_of_ok hrender]
    exact ⟨_, Writer.keeps_writeAll⟩

/-- A run leaves a disk on which everything stands in a directory. -/
theorem sound_deliver (hd : d.Sound) : (r.deliver targets d).Sound := by
  induction targets generalizing d with
  | nil => exact hd
  | cons id targets ih =>
    obtain ⟨paths, hkeeps⟩ := exists_keeps_deliver r id d
    rw [deliver_cons r id targets]
    exact ih (hkeeps.sound hd)

end Run

end CliGen
