import CliGen.Proofs.Artifact.Blocked
import CliGen.Proofs.Artifact.Confined
import CliGen.Proofs.Artifact.DryRun
import CliGen.Proofs.Generation.UserFiles

/-!
# Targets do not disturb each other

Each target has a directory of its own, and delivering it is confined to that directory. So what is
reported of a target, and what stands in its directory in the end, is what the target comes to alone
(`Run.targets_isolated`).

This takes that what is missing along the path of the output directory can be made
(`Disk.Reachable`), or that nothing can be written there at all (`Disk.Blocked`). Else the first
target may make directories by which the next one finds what it does not find alone
(`Run.hooks_found_behind_missing`). A dry run makes none.
-/

namespace CliGen

namespace Registry

variable {tree : CommandTree} {options : RenderOptions} {id : String} {files : List Artifact}

/-- The targets that there are. -/
theorem ids_builtin : builtin.ids = ["python", "nodejs", "typescript", "rust"] := rfl

/-- Every target names a directory. -/
theorem isEntryName_of_mem_ids (h : id ∈ builtin.ids) : Path.IsEntryName id := by
  rw [ids_builtin] at h
  simp only [List.mem_cons, List.not_mem_nil, or_false] at h
  rcases h with rfl | rfl | rfl | rfl <;>
    exact ⟨Path.isName_iff.2 (by decide), by decide, by decide⟩

/-- Only targets that there are can be rendered. -/
theorem mem_ids_of_render (h : builtin.render tree options id = .ok files) : id ∈ builtin.ids := by
  obtain ⟨t, ht, -⟩ := Outcome.bind_eq_ok.1 h
  exact List.mem_map_of_mem (mem_of_get ht)

end Registry

namespace Trail

variable {t : Trail} {d d' : Disk} {files : List Artifact}

/-- Looking for files that are the user's own, below the directory of a target. -/
theorem confines_below (hfiles : ∀ a ∈ files, Path.IsPlain a.path) :
    t.Confines (Merged.below t.path files : StateM Disk Merged) := by
  intro d d' h
  have hfound : ((files.map (·.path)).filter fun path =>
      (d'.get? (Path.join t.path path)).isSome) = (files.map (·.path)).filter fun path =>
        (d.get? (Path.join t.path path)).isSome := by
    refine List.filter_congr fun path hpath => ?_
    obtain ⟨a, ha, rfl⟩ := List.mem_map.1 hpath
    rw [h.get?_eq (t.reaches_join (hfiles a ha))]
  rw [Merged.run_below, Merged.run_below, hfound]
  exact ⟨rfl, h, Storage.Within.refl _ _⟩

/-- Delivering the files of a target to its directory. -/
theorem confines_deliver {w : Writer} (hfiles : ∀ a ∈ files, Path.IsPlain a.path) :
    t.Confines (w.deliver (m := StateM Disk) t.path files).run :=
  confines_bind_except (confines_lift (confines_below hfiles)) fun _ =>
    confines_bind_except confines_writeAll fun _ => confines_pure _

end Trail

/-- The same is found at a directory and below it. -/
def Disk.SameBelow (d : Disk) (directory : String) (d' : Disk) : Prop :=
  d'.get? directory = d.get? directory ∧ ∀ path, Path.IsPlain path →
    d'.get? (Path.join directory path) = d.get? (Path.join directory path)

/-- Where nothing happens, everything below a directory is the same. -/
theorem Disk.SameBelow.refl (d : Disk) (directory : String) : d.SameBelow directory d :=
  ⟨rfl, fun _ _ => rfl⟩

/-- Disks that agree along a trail agree below its directory. -/
theorem Trail.Beside.sameBelow {t : Trail} {d d' : Disk} (h : t.Beside d d') :
    d.SameBelow t.path d' :=
  ⟨h.get?_eq t.reaches_path, fun _ hpath => h.get?_eq (t.reaches_join hpath)⟩

namespace Run

variable {r : Run} {t : Trail} {d d' : Disk} {id : String} {ids : List String}

/-- What is reported of targets. -/
def reports (r : Run) (targets : List String) (d : Disk) : List (String × Outcome Delivery) :=
  ((Registry.builtin.deliver r.settings r.writer r.tree r.root targets : StateM Disk _).run d).1

/-- Reports are what handing over one target after the other answers. -/
theorem reports_eq (r : Run) (ids : List String) (d : Disk) :
    r.reports ids d = ((ids.mapM r.handOver).run d).1 := by
  rw [reports, Registry.deliver, Registry.generate, List.mapM_map]
  rfl

/-- The first target reports on the disk as it is, the others on the disk that it leaves. -/
theorem reports_cons (r : Run) (id : String) (ids : List String) (d : Disk) :
    r.reports (id :: ids) d = r.reports [id] d ++ r.reports ids (r.deliver [id] d) := by
  simp only [reports_eq, deliver_eq, List.mapM_cons, StateT.run_bind]
  rfl

/-- The report of one target. -/
theorem reports_singleton (r : Run) (id : String) (d : Disk) :
    r.reports [id] d = [((r.handOver id).run d).1] := by
  rw [reports_eq]
  rfl

/-- The disk that one target leaves. -/
theorem deliver_singleton (r : Run) (id : String) (d : Disk) :
    r.deliver [id] d = ((r.handOver id).run d).2 := by
  rw [deliver_eq]
  rfl

/-- Targets behind others start from the disk that those leave. -/
theorem deliver_append (r : Run) (before after : List String) (d : Disk) :
    r.deliver (before ++ after) d = r.deliver after (r.deliver before d) := by
  induction before generalizing d with
  | nil => rfl
  | cons id before ih => rw [List.cons_append, deliver_cons, ih, ← deliver_cons]

/-- A target that cannot be rendered reports why. -/
theorem reports_of_error {problem : Problem}
    (h : Registry.builtin.render r.tree r.settings.options id = .error problem) :
    r.reports [id] d = [(id, .error problem)] := by
  rw [reports_singleton, handOver, h]
  rfl

/-- There is one report for each target, in their order. -/
theorem map_fst_reports : (r.reports ids d).map (·.1) = ids := by
  induction ids generalizing d with
  | nil => rfl
  | cons id ids ih =>
    have hfirst : ((r.handOver id).run d).1.1 = id := by
      rw [handOver]
      split <;> rfl
    rw [reports_cons, List.map_append, ih, reports_singleton, List.map_singleton, hfirst]
    rfl

/-! ## One target and another -/

/-- Handing over a target is confined to the directory of its name. -/
theorem confines_handOver (hroot : t.root = r.root) : t.Confines (r.handOver t.name) := by
  unfold handOver
  split
  · exact Trail.confines_pure _
  · next files hrender =>
    have hplain : ∀ a ∈ files, Path.IsPlain a.path := fun a ha =>
      Path.isPlain_of_validatePath ((Registry.deliverable_of_render hrender).validPath a ha)
    have hpath : Path.join r.root t.name = t.path := by rw [Trail.path, hroot]
    rw [hpath]
    exact Trail.confines_bind (Trail.confines_deliver hplain) fun _ => Trail.confines_pure _

/-- A target comes to the same where the same stands in its directory. -/
theorem beside_deliver (hroot : t.root = r.root) (h : t.Beside d d') :
    r.reports [t.name] d' = r.reports [t.name] d ∧
      t.Beside (r.deliver [t.name] d) (r.deliver [t.name] d') := by
  obtain ⟨hanswer, hbeside, -⟩ := confines_handOver hroot d d' h
  rw [reports_singleton, reports_singleton, deliver_singleton, deliver_singleton, hanswer]
  exact ⟨rfl, hbeside⟩

/-- Another target leaves what stands in the directory of a target. -/
theorem beside_deliver_other (hroot : t.root = r.root) (h : t.Beside d d') (hne : id ≠ t.name) :
    t.Beside d (r.deliver [id] d') := by
  cases hrender : Registry.builtin.render r.tree r.settings.options id with
  | error problem => rwa [deliver_of_error hrender]
  | ok files =>
    -- Its directory is on the same trail but for the name.
    let other : Trail := { t with
      name := id
      isEntryName := Registry.isEntryName_of_mem_ids (Registry.mem_ids_of_render hrender) }
    have hon : other.On d' :=
      ⟨h.right.faults, h.right.sound, h.right.follow, h.right.directory⟩
    have hwithin := (confines_handOver (t := other) hroot d' d' hon.beside).within
    have hgoal : ¬ t.goal <+: other.goal := by
      rw [Trail.goal, Trail.goal, List.prefix_append_right_inj]
      simpa [other] using hne.symm
    have hother : ¬ other.goal <+: t.goal := by
      rw [Trail.goal, Trail.goal, List.prefix_append_right_inj]
      simpa [other] using hne
    obtain ⟨paths, hkeeps⟩ := exists_keeps_deliver r id d'
    refine ⟨h.left, h.right.of_keeps hkeeps, hkeeps.grows.directory_eq.trans h.directory_eq, ?_⟩
    rw [deliver_singleton]
    exact h.storage.of_within hwithin hgoal hother

/-- The other targets leave the directory of a target as it is. -/
theorem beside_deliver_others (hroot : t.root = r.root) (h : t.Beside d d') (hne : t.name ∉ ids) :
    t.Beside d (r.deliver ids d') := by
  induction ids generalizing d' with
  | nil => exact h
  | cons id ids ih =>
    rw [List.mem_cons, not_or] at hne
    rw [deliver_cons]
    exact ih (beside_deliver_other hroot h (Ne.symm hne.1)) hne.2

/-! ## All targets -/

/-- A disk without faults on which what is missing along the path of the output directory can be
made, or on which a run makes nothing. -/
structure Prepared (r : Run) (d : Disk) : Prop where
  faults : d.faults = []
  sound : d.Sound
  reachable : d.Reachable r.root ∨ d.Blocked r.root ∨ r.writer.dryRun = true

/-- A disk without faults on which a run makes nothing. -/
structure Idle (r : Run) (d : Disk) : Prop where
  faults : d.faults = []
  idle : d.Blocked r.root ∨ r.writer.dryRun = true

/-- Such a disk stays as it is. -/
theorem Idle.deliver_eq (h : r.Idle d) (ids : List String) : r.deliver ids d = d := by
  induction ids with
  | nil => rfl
  | cons id ids ih =>
    have hfirst : r.deliver [id] d = d := by
      cases hrender : Registry.builtin.render r.tree r.settings.options id with
      | error problem => exact deliver_of_error hrender
      | ok files =>
        have hname := Registry.isEntryName_of_mem_ids (Registry.mem_ids_of_render hrender)
        rw [deliver_of_ok hrender]
        rcases h.idle with hblocked | hdry
        · exact Writer.after_writeAll_of_blocked h.faults (hblocked.join hname.isPlain)
        · exact Writer.after_writeAll_of_dryRun hdry h.faults
    rw [deliver_cons, hfirst, ih]

/-- Either directories can be made at the root of a run, or the run comes to nothing. -/
theorem Prepared.cases (h : r.Prepared d) : d.Reachable r.root ∨ r.Idle d :=
  h.reachable.imp_right (⟨h.faults, ·⟩)

/-- A trail leads to the directory of each target below a root that can be reached. -/
theorem Prepared.exists_trail (h : r.Prepared d) (hreachable : d.Reachable r.root)
    (hid : id ∈ Registry.builtin.ids) : ∃ t : Trail, t.root = r.root ∧ t.name = id ∧ t.On d := by
  obtain ⟨known, ahead, place, hsteps, hfollow, hdirectory, hahead⟩ := hreachable
  have hname := Registry.isEntryName_of_mem_ids hid
  exact ⟨⟨r.root, known, place, ahead, id, hsteps, hahead, hname⟩, rfl, rfl, h.faults, h.sound,
    hfollow, hdirectory⟩

/-- What is reported of a target after others is what is reported of it alone. -/
theorem reports_after (h : r.Prepared d) (hid : id ∉ ids) :
    r.reports [id] (r.deliver ids d) = r.reports [id] d := by
  rcases h.cases with hreachable | hidle
  · cases hrender : Registry.builtin.render r.tree r.settings.options id with
    | error problem => rw [reports_of_error hrender, reports_of_error hrender]
    | ok files =>
      obtain ⟨t, hroot, rfl, hon⟩ :=
        h.exists_trail hreachable (Registry.mem_ids_of_render hrender)
      exact (beside_deliver hroot (beside_deliver_others hroot hon.beside hid)).1
  · rw [hidle.deliver_eq]

/-- Targets report the same whichever others went before. -/
theorem reports_after_all (h : r.Prepared d) (before : List String) {after : List String}
    (hnodup : (before ++ after).Nodup) :
    r.reports after (r.deliver before d) = after.flatMap fun id => r.reports [id] d := by
  induction after generalizing before with
  | nil => rfl
  | cons id after ih =>
    have hid : id ∉ before := fun hmem =>
      (List.nodup_append.1 hnodup).2.2 id hmem id List.mem_cons_self rfl
    rw [reports_cons, reports_after h hid, ← deliver_append,
      ih (before ++ [id]) (by rwa [List.append_assoc, List.singleton_append]), List.flatMap_cons]

/-- What stands in the directory of a target after all targets is what the target leaves alone. -/
theorem sameBelow_deliver (h : r.Prepared d) (hnodup : ids.Nodup) (hmem : id ∈ ids)
    (hid : id ∈ Registry.builtin.ids) :
    (r.deliver [id] d).SameBelow (Path.join r.root id) (r.deliver ids d) := by
  rcases h.cases with hreachable | hidle
  case inr =>
    rw [hidle.deliver_eq, hidle.deliver_eq]
    exact .refl _ _
  obtain ⟨t, hroot, rfl, hon⟩ := h.exists_trail hreachable hid
  obtain ⟨before, after, rfl⟩ := List.append_of_mem hmem
  rw [List.nodup_append, List.nodup_cons] at hnodup
  have hbefore : t.name ∉ before := fun hmem =>
    hnodup.2.2 t.name hmem t.name List.mem_cons_self rfl
  have hown := (beside_deliver hroot (beside_deliver_others hroot hon.beside hbefore)).2
  have hall := beside_deliver_others hroot hown hnodup.2.1.1
  rw [deliver_append, deliver_cons r t.name after, ← hroot]
  exact hall.sameBelow

/-- **Targets are isolated.** There is one report for each target, in the order they were asked for,
and a target whose rendering fails changes nothing. Where what is missing along the path of the
output directory can be made, or nothing is made at all, the report of each of some different
targets, and what stands in its directory in the end, are the same as if the target was asked for
alone. -/
theorem targets_isolated (r : Run) (s : Storage) :
    (r.reports r.targets (r.start s)).map (·.1) = r.targets ∧
    (∀ id problem d, Registry.builtin.render r.tree r.settings.options id = .error problem →
      r.deliver [id] d = d ∧ r.reports [id] d = [(id, .error problem)]) ∧
    (r.Prepared (r.start s) → r.targets.Nodup →
      (r.reports r.targets (r.start s) =
        r.targets.flatMap fun id => r.reports [id] (r.start s)) ∧
      ∀ id ∈ r.targets, id ∈ Registry.builtin.ids →
        (r.deliver [id] (r.start s)).SameBelow (Path.join r.root id)
          (r.deliver r.targets (r.start s))) :=
  ⟨map_fst_reports, fun _ _ _ h => ⟨deliver_of_error h, reports_of_error h⟩,
    fun h hnodup => ⟨reports_after_all h [] hnodup,
      fun _ hmem hid => sameBelow_deliver h hnodup hmem hid⟩⟩

/-- A run for targets one of which is not known. -/
def mixed (tree : CommandTree) : Run :=
  delivery tree ⟨true, false⟩ "out" ["rust", "fortran", "nodejs"]

/-- A run for three targets of which one does not exist, beside a file that is kept. -/
theorem targets_isolated_mixed : ∃ tree, CommandTree.build 2 CommandTree.equipped = .ok tree ∧
    (mixed tree).deliver ["fortran"] ((mixed tree).start kept) = (mixed tree).start kept ∧
    ((mixed tree).reports ["rust", "fortran", "nodejs"] ((mixed tree).start kept) =
      ["rust", "fortran", "nodejs"].flatMap fun id =>
        (mixed tree).reports [id] ((mixed tree).start kept)) ∧
    ((mixed tree).deliver ["nodejs"] ((mixed tree).start kept)).SameBelow (Path.join "out" "nodejs")
      ((mixed tree).deliver ["rust", "fortran", "nodejs"] ((mixed tree).start kept)) := by
  obtain ⟨tree, hbuild, -⟩ := Blueprint.exists_render_equipped
  have hsteps : Path.stepsTo "out" = [] ++ ["out"] := by decide +kernel
  have hfollow : kept.follow (Storage.start [] "out") [] = .ok [] := by decide +kernel
  have hprepared : (mixed tree).Prepared ((mixed tree).start kept) :=
    ⟨rfl, ⟨rooted_kept, Storage.get?_top _⟩, .inl ⟨[], ["out"], [], hsteps, hfollow,
      Storage.get?_top _, by decide⟩⟩
  obtain ⟨-, hfailing, hisolated⟩ := targets_isolated (mixed tree) kept
  have hnodup : ["rust", "fortran", "nodejs"].Nodup := by decide
  obtain ⟨hreports, hbelow⟩ := hisolated hprepared hnodup
  exact ⟨tree, hbuild, (hfailing "fortran" _ _ rfl).1, hreports,
    hbelow "nodejs" (by simp [mixed, delivery]) (by decide)⟩

/-! ## A directory that the first target makes -/

/-- The directory of another target, with the same step back. -/
def aside : String := Path.join "gone/../out" "typescript"

/-- The disk once the directories along that path are made. -/
def opened : Disk :=
  ⟨(["out", "typescript"], .directory) :: (["gone"], .directory) :: kept, [], []⟩

/-- A run that writes for both targets. -/
def both (tree : CommandTree) : Run :=
  delivery tree ⟨false, false⟩ "gone/../out" ["typescript", "nodejs"]

/-- The other target makes the missing directory and leaves the hook file. -/
theorem deliver_typescript {tree : CommandTree} {files : List Artifact}
    (h : Registry.builtin.render tree ⟨3, 2⟩ "typescript" = .ok files) :
    opened.Grows ((both tree).deliver ["typescript"] missing) ∧
      missing.storage.Stays ["out", "nodejs", "src", "hooks.js"]
        ((both tree).deliver ["typescript"] missing).storage := by
  have hplaces := Registry.dialect_places .typed h
  have hpaths : files.map (·.path) = Target.JavaScript.Dialect.typed.places.map (·.2) := by
    rw [← hplaces, List.map_map]
    rfl
  have hall : ((Merged.below aside files : StateM Disk Merged).run missing).1.artifacts =
      files := by
    refine Merged.artifacts_below_of_none ?_
    rw [hpaths]
    decide +kernel
  have hrender : Registry.builtin.render (both tree).tree (both tree).settings.options
      "typescript" = .ok files := h
  have haside : Path.join (both tree).root "typescript" = aside := rfl
  have hdeliver := deliver_of_ok (d := missing) hrender
  rw [haside, hall] at hdeliver
  rw [hdeliver]
  -- The first file is written, whatever becomes of the others.
  obtain ⟨entry, rest, rfl, hentry⟩ : ∃ entry rest, files = entry :: rest ∧
      entry.path = "cli.ts" := by
    cases files with
    | nil => cases hpaths
    | cons entry rest => exact ⟨entry, rest, rfl, (List.cons.inj hpaths).1⟩
  have hmissing : missing.locate (Path.join aside "cli.ts") = .error .notFound := by
    decide +kernel
  have hfound : missing.outcome (Writer.existing (Path.join aside "cli.ts")) = .ok none := by
    refine Writer.outcome_existing_eq_ok.2 (.inr ⟨⟨SystemError.notFound.text, ?_⟩, rfl⟩)
    rw [Disk.run_read rfl, hmissing]
    rfl
  have hparent : Path.parent? (Path.join aside "cli.ts") = some aside := by decide +kernel
  have hmake : (Files.makeDirectories aside : StateM Disk _).run missing = (.ok (), opened) := rfl
  have hplace : opened.HasPlace aside (Path.join aside "cli.ts") :=
    ⟨by decide +kernel, by decide +kernel, ["out", "typescript", "cli.ts"], by decide +kernel,
      by decide +kernel⟩
  rw [← hentry] at hfound hparent hplace
  obtain ⟨-, hfirst⟩ := Writer.writeAll_singleton_of_hasPlace (w := ⟨false, false⟩) rfl rfl rfl
    (by rw [hentry]; rfl) hfound hparent hmake rfl hplace
  have hgrows : opened.Grows (missing.after (Writer.writeAll ⟨false, false⟩ aside [entry])) := by
    rw [hfirst]
    exact Writer.keeps_replace.grows
  have hlater : opened.Grows
      (missing.after ((both tree).writer.writeAll aside (entry :: rest))) :=
    hgrows.trans (Writer.grows_writeAll_append [entry] rest)
  refine ⟨hlater, fun bytes mode hfile => ?_⟩
  refine (Writer.keeps_writeAll.files _ (fun path hpath hlocate => ?_) bytes mode).2 hfile
  -- Below its directory no path leads to the hook file.
  obtain ⟨q, hq, rfl⟩ : ∃ q, Path.IsPlain q ∧ path = Path.join aside q := by
    obtain ⟨a, ha, hpath⟩ := Writer.mem_concerned.1 hpath
    have hplain := Path.isPlain_of_validatePath
      ((Registry.deliverable_of_render hrender).validPath a ha)
    rcases hpath with rfl | rfl
    · exact ⟨a.path, hplain, rfl⟩
    · exact ⟨a.path ++ ".bak", hplain.backup, Path.backupPath_join hplain aside⟩
  obtain ⟨base, hbase, hl⟩ := Disk.exists_of_locate_join hq hlocate
  have hopened : opened.storage.follow (Storage.start opened.directory aside)
      (Path.stepsTo aside) = .ok ["out", "typescript"] := by decide +kernel
  have hthere := hlater.storage.follow hopened
  rw [← hlater.directory_eq, hbase, Except.ok.injEq] at hthere
  rw [hthere] at hl
  simp at hl

/-- Alone, a target does not find a hook file behind a directory that is missing, and replaces it.
After another target has made the directory it finds the hook file, and leaves it. -/
theorem hooks_found_behind_missing :
    ∃ tree, CommandTree.build 2 CommandTree.equipped = .ok tree ∧ kept.Rooted ∧
      ((both tree).leaves kept).get? ["out", "nodejs", "src", "hooks.js"] =
        some (.file "// mine\n".toUTF8 Storage.plainMode) ∧
      ∃ bytes mode, ((delivery tree ⟨false, false⟩ "gone/../out" ["nodejs"]).leaves kept).get?
        ["out", "nodejs", "src", "hooks.js"] = some (.file bytes mode) ∧
          "// mine\n".toUTF8 ≠ bytes := by
  obtain ⟨tree, hbuild, -, hrender⟩ := Blueprint.exists_render_equipped
  obtain ⟨files, hfiles⟩ := hrender (.javascript .plain) (by simp [Blueprint.builtin])
  obtain ⟨others, hothers⟩ := hrender (.javascript .typed) (by simp [Blueprint.builtin])
  refine ⟨tree, hbuild, rooted_kept, ?_, leaves_beyond hbuild hfiles⟩
  obtain ⟨hgrows, hstays⟩ := deliver_typescript hothers
  have hsound : ((both tree).deliver ["typescript"] missing).Sound :=
    sound_deliver ⟨rooted_kept, Storage.get?_top _⟩
  have hopened : opened.Anchored "gone/../out" :=
    ⟨["gone", ".."], ["out"], [], by decide +kernel, by decide, by decide +kernel⟩
  have hnext := (stays_passes (r := both tree) "nodejs" hsound.rooted (hopened.of_grows hgrows)
    (hookPlace_nodejs hfiles).isHookFile).2.2
  have hleaves : (both tree).leaves kept = ((both tree).deliver ["nodejs"]
      ((both tree).deliver ["typescript"] missing)).storage :=
    congrArg Disk.storage (deliver_cons (both tree) "typescript" ["nodejs"] missing)
  rw [hleaves]
  exact hnext _ _ (hstays _ _ (by decide +kernel))

end Run

end CliGen
