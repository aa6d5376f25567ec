import CliGen.Proofs.Artifact.Accounts

/-!
# Dry runs

A dry run changes nothing, whatever comes of it (`Writer.storage_writeAll_of_dryRun`). It reports
what the disk lets expect, and so does the writing that it stands for, where the steps back to
parent directories along the path of the directory lie in a part that exists
(`Writer.writeAll_foretold`).

A dry run gets as far as the writing does because of what stands in the end: no file gives way to a
directory, so along a path where an artifact came to stand nothing was in the way from the start.
-/

namespace CliGen

namespace Writer

variable {d d' : Disk} {w : Writer} {path root : String} {artifacts : List Artifact} {a : Artifact}
  {report : WriteReport}

/-! ## What a dry run does -/

/-- A dry run looks for the file and tells what would become of it. -/
theorem writeFile_of_dryRun (hdry : w.dryRun = true) : w.writeFile (m := StateM Disk) path a = do
    let found ← existing path
    return if found = some a.content.toUTF8 then .unchanged
      else .written (if found.isSome && w.backup then some (backupPath path) else none) := by
  unfold writeFile
  refine bind_congr fun found => ?_
  rw [hdry, Bool.not_true, Bool.and_false]
  split
  · rfl
  · rfl

/-- A dry run leaves the storage as it is, even where faults meet it. -/
theorem storage_writeFile_of_dryRun (hdry : w.dryRun = true) :
    (d.after (w.writeFile path a)).storage = d.storage := by
  rw [writeFile_of_dryRun hdry]
  cases hlook : d.outcome (existing path) with
  | error problem =>
    rw [Disk.after_bind_of_error hlook, after_existing]
    exact Disk.storage_read
  | ok found =>
    rw [Disk.after_bind_of_ok hlook, after_existing]
    exact Disk.storage_read

/-- **A dry run changes nothing**, whatever comes of it. -/
theorem storage_writeAll_of_dryRun (hdry : w.dryRun = true) :
    (d.after (w.writeAll root artifacts)).storage = d.storage := by
  induction artifacts using List.reverseRecOn with
  | nil => rfl
  | append_singleton artifacts a ih =>
    rw [after_writeAll_concat]
    split
    · rcases after_writeBelow (d.after (w.writeAll root artifacts)) w root a with hlast | ⟨-, hlast⟩
      · rw [hlast, ih]
      · rw [hlast, storage_writeFile_of_dryRun hdry, ih]
    · exact ih

/-- Without faults a dry run leaves the whole disk as it is. -/
theorem after_writeAll_of_dryRun (hdry : w.dryRun = true) (hfaults : d.faults = []) :
    d.after (w.writeAll root artifacts) = d := by
  have hstorage : (d.after (w.writeAll root artifacts)).storage = d.storage :=
    storage_writeAll_of_dryRun hdry
  have hdirectory : (d.after (w.writeAll root artifacts)).directory = d.directory :=
    directory_writeAll
  have hnone : (d.after (w.writeAll root artifacts)).faults = d.faults := by
    rw [hfaults, faults_writeAll hfaults]
  exact Disk.mk.injEq .. ▸ ⟨hstorage, hdirectory, hnone⟩

/-- A dry run reports what a real one would, where it finds the same. -/
theorem outcome_writeFile_of_dryRun (hdry : w.dryRun = true) (hfaults : d.faults = [])
    {found : Option ByteArray} (hlook : d.outcome (existing path) = .ok found) :
    d.outcome (w.writeFile path a) = .ok (w.result d path a) ∧
      d.after (w.writeFile path a) = d := by
  have hfound := bytes?_of_existing_ok hfaults hlook
  have hresult : (if found = some a.content.toUTF8 then FileOutcome.unchanged
      else .written (if found.isSome && w.backup then some (backupPath path) else none)) =
        w.result d path a := by
    rw [result, hfound]
    split
    · rfl
    · next hdiffers => rw [eq_backup?_of_found hfound hdiffers]
  rw [writeFile_of_dryRun hdry, Disk.outcome_bind_of_ok hlook, Disk.after_bind_of_ok hlook,
    after_existing_of_faults hfaults, hresult]
  exact ⟨rfl, rfl⟩

/-- A dry run that can look for all files reports what the disk lets expect. -/
theorem outcome_writeAll_of_dryRun (hdry : w.dryRun = true) (hfaults : d.faults = [])
    (hvalid : ∀ a ∈ artifacts, validatePath a.path = .ok ())
    (hlook : ∀ a ∈ artifacts, ∃ found, d.outcome (existing (Path.join root a.path)) = .ok found) :
    d.outcome (w.writeAll root artifacts) =
        .ok ⟨(w.expected d root artifacts).files, true⟩ ∧
      d.after (w.writeAll root artifacts) = d := by
  induction artifacts using List.reverseRecOn with
  | nil => exact ⟨by rw [← hdry]; rfl, rfl⟩
  | append_singleton artifacts a ih =>
    obtain ⟨hearlier, hsame⟩ := ih (fun a ha => hvalid a (List.mem_append_left _ ha))
      fun a ha => hlook a (List.mem_append_left _ ha)
    obtain ⟨found, hfound⟩ := hlook a (by simp)
    obtain ⟨hwrite, hlast⟩ := outcome_writeFile_of_dryRun (a := a) hdry hfaults hfound
    have hwrite' : (d.after (w.writeAll root artifacts)).outcome
        (w.writeFile (Path.join root a.path) a) = .ok (w.result d (Path.join root a.path) a) := by
      rw [hsame]
      exact hwrite
    obtain ⟨hall, hafter⟩ := outcome_writeAll_concat hearlier (hvalid a (by simp)) hwrite'
    rw [hall, hafter, hsame, hlast, hdry, expected, expected, List.map_append, List.map_singleton]
    exact ⟨rfl, rfl⟩

/-! ## What stands in the end -/

/-- A backup that is reported is there. -/
theorem Accounted.exists_backup (h : w.Accounted d root artifacts report d') {target : String}
    (htarget : target ∈ report.backedUp) :
    ∃ bytes mode, d'.get? target = some (.file bytes mode) := by
  rw [h.report_eq, WriteReport.backedUp, expected] at htarget
  obtain ⟨⟨path, o⟩, hfile, htold⟩ := List.mem_filterMap.1 htarget
  obtain ⟨a, ha, hpair⟩ := List.mem_map.1 hfile
  cases hpair
  dsimp only at htold
  rw [result] at htold
  split at htold
  · next hwritten =>
    split at hwritten
    · cases hwritten
    · cases hwritten
      obtain ⟨bytes, mode, hstood, hdiffers, hbackup, rfl⟩ := backup?_eq_some.1 htold
      exact ⟨bytes, mode, h.backups hbackup a ha bytes mode hstood hdiffers⟩
  · cases htold

/-- No file gives way to a directory. -/
theorem Accounted.ne_directory (h : w.Accounted d root artifacts report d')
    (hholds : ∀ a ∈ artifacts, d'.Holds (Path.join root a.path) a) {l : Location}
    {bytes : ByteArray} {mode : Nat} (hstood : d.storage.get? l = some (.file bytes mode)) :
    d'.storage.get? l ≠ some .directory := by
  intro hdirectory
  -- What is written in the end are files, so their paths do not lead to a directory.
  have hother (path : String) (hpath : path ∈ artifacts.map (fun a => Path.join root a.path) ++
      report.backedUp) : d'.locate path ≠ .ok l := by
    intro hlocate
    have hfile : ∃ bytes mode, d'.get? path = some (.file bytes mode) := by
      rcases List.mem_append.1 hpath with hpath | hpath
      · obtain ⟨a, ha, rfl⟩ := List.mem_map.1 hpath
        obtain ⟨mode, hfile, -⟩ := hholds a ha
        exact ⟨_, mode, hfile⟩
      · exact h.exists_backup hpath
    obtain ⟨bytes, mode, hfile⟩ := hfile
    rw [Disk.get?_of_locate hlocate, hdirectory] at hfile
    cases hfile
  rw [(h.keeps.files l hother bytes mode).2 hstood] at hdirectory
  cases hdirectory

/-- Where a file came to stand, the look for it found a file or nothing. -/
theorem exists_found_of_later (hfaults : d.faults = []) (hgrows : d.Grows d')
    (hfiles : ∀ l bytes mode, d.storage.get? l = some (.file bytes mode) →
      d'.storage.get? l ≠ some .directory) {bytes : ByteArray} {mode : Nat}
    (hlater : d'.get? path = some (.file bytes mode)) :
    ∃ found, d.outcome (existing path) = .ok found := by
  obtain ⟨k, hlocate, hk⟩ := Disk.get?_eq_some.1 hlater
  obtain ⟨hempty, hzero, hfollow⟩ := Disk.locate_eq_ok.1 hlocate
  have hnow : d.locate path = d.storage.follow (Storage.start d.directory path)
      (Path.steps path) := by
    rw [Disk.locate, Storage.locate, if_neg (by simpa using hempty), if_neg (by simpa using hzero)]
  rw [hgrows.directory_eq] at hfollow
  have hread : ((Files.read path : StateM Disk _).run d).1 = d.locate path >>= d.storage.read :=
    congrArg Prod.fst (Disk.run_read hfaults)
  -- The path leads to where it will lead later, or nothing is found on the way.
  rcases Storage.follow_of_later hfiles hfollow with hthere | hmissing
  · rw [hnow, hthere] at hread
    cases hentry : d.storage.get? k with
    | none =>
      refine ⟨none, outcome_existing_eq_ok.2 (.inr ⟨⟨SystemError.notFound.text, ?_⟩, rfl⟩)⟩
      rw [hread]
      simp only [bind, Except.bind, Storage.read, hentry]
      rfl
    | some e =>
      cases e with
      | directory =>
        rw [hgrows.storage k hentry] at hk
        cases hk
      | file bytes mode =>
        refine ⟨some bytes, outcome_existing_eq_ok.2 (.inl ⟨bytes, ?_, rfl⟩)⟩
        rw [hread]
        simp only [bind, Except.bind, Storage.read, hentry]
  · refine ⟨none, outcome_existing_eq_ok.2 (.inr ⟨⟨SystemError.notFound.text, ?_⟩, rfl⟩)⟩
    rw [hread, hnow, hmissing]
    rfl

/-! ## The truth of a dry run -/

/-- **A dry run tells the truth.** If independent artifacts can be written, a dry run from the same
disk succeeds with the same lists; and no dry run changes any file or directory, whatever it
answers. -/
theorem writeAll_foretold (backup : Bool) :
    (∀ (d : Disk) (root : String) (artifacts : List Artifact) (report : WriteReport),
      d.faults = [] → d.storage.Rooted → d.Anchored root → (artifacts.map (·.path)).Nodup →
      (∀ a ∈ artifacts, ∀ b ∈ artifacts, b.path ≠ a.path ++ ".bak") →
      d.outcome (writeAll ⟨backup, false⟩ root artifacts) = .ok report →
      ∃ foretold, d.outcome (writeAll ⟨backup, true⟩ root artifacts) = .ok foretold ∧
        foretold.written = report.written ∧ foretold.unchanged = report.unchanged ∧
        foretold.backedUp = report.backedUp) ∧
    ∀ (d : Disk) (root : String) (artifacts : List Artifact),
      (d.after (writeAll ⟨backup, true⟩ root artifacts)).storage = d.storage := by
  refine ⟨fun d root artifacts report hfaults hrooted hanchored hnodup hfree h => ?_,
    fun d root artifacts => storage_writeAll_of_dryRun rfl⟩
  have haccounted := accounted_writeAll rfl hfaults hrooted hanchored hnodup hfree h
  have hholds : ∀ a ∈ artifacts, (d.after (writeAll ⟨backup, false⟩ root artifacts)).Holds
      (Path.join root a.path) a :=
    fun a ha => holds_writeAll_of_free rfl hfaults hnodup hfree h ha
  have hlook : ∀ a ∈ artifacts, ∃ found,
      d.outcome (existing (Path.join root a.path)) = .ok found := by
    intro a ha
    obtain ⟨mode, hfile, -⟩ := hholds a ha
    exact exists_found_of_later hfaults haccounted.keeps.grows
      (fun l bytes mode => haccounted.ne_directory hholds) hfile
  obtain ⟨hforetold, -⟩ := outcome_writeAll_of_dryRun (w := ⟨backup, true⟩) rfl hfaults
    (validatePath_of_writeAll h) hlook
  -- What the disk lets expect does not depend on whether the run is a dry one.
  rw [haccounted.report_eq]
  exact ⟨_, hforetold, rfl, rfl, rfl⟩

/-- A dry run tells what becomes of the files of an older version. -/
theorem writeAll_foretold_released : ∃ report foretold,
    released.outcome (writeAll ⟨true, false⟩ "out" revised) = .ok report ∧
      released.outcome (writeAll ⟨true, true⟩ "out" revised) = .ok foretold ∧
      report.written = ["out/tool"] ∧ foretold.written = report.written ∧
      report.unchanged = ["out/setup"] ∧ foretold.unchanged = report.unchanged ∧
      report.backedUp = ["out/tool.bak"] ∧ foretold.backedUp = report.backedUp := by
  have hreport : (released.outcome (writeAll ⟨true, false⟩ "out" revised)).toOption =
      some ⟨[("out/tool", .written (some "out/tool.bak")), ("out/setup", .unchanged)], false⟩ := by
    decide +kernel
  have hok := Outcome.toOption_eq_some.1 hreport
  have hrooted : released.storage.Rooted := Storage.rooted_of_entries (by decide +kernel)
  have hanchored : released.Anchored "out" := Disk.anchored_of_down (by decide +kernel)
  obtain ⟨foretold, hforetold, hwritten, hunchanged, hbackedUp⟩ :=
    (writeAll_foretold true).1 released "out" revised _ rfl hrooted hanchored (by decide)
      (by decide) hok
  exact ⟨_, foretold, hok, hforetold, rfl, hwritten, rfl, hunchanged, rfl, hbackedUp⟩

/-- Where the directory is written with a step back from one that is missing, a dry run finds
nothing and announces that all is written. The writing finds the second artifact, because the
missing directory is made for the first. -/
theorem not_foretold_behind_missing :
    released.storage.Rooted ∧ (revised.map (·.path)).Nodup ∧
    (∀ a ∈ revised, ∀ b ∈ revised, b.path ≠ a.path ++ ".bak") ∧
    ∃ report foretold,
      released.outcome (writeAll ⟨true, false⟩ "gone/../out" revised) = .ok report ∧
      released.outcome (writeAll ⟨true, true⟩ "gone/../out" revised) = .ok foretold ∧
      foretold.written ≠ report.written ∧ foretold.unchanged ≠ report.unchanged := by
  have hreport : (released.outcome (writeAll ⟨true, false⟩ "gone/../out" revised)).toOption =
      some ⟨[("gone/../out/tool", .written none), ("gone/../out/setup", .unchanged)], false⟩ := by
    decide +kernel
  have hforetold : (released.outcome (writeAll ⟨true, true⟩ "gone/../out" revised)).toOption =
      some ⟨[("gone/../out/tool", .written none), ("gone/../out/setup", .written none)], true⟩ := by
    decide +kernel
  exact ⟨Storage.rooted_of_entries (by decide +kernel), by decide, by decide, _, _,
    Outcome.toOption_eq_some.1 hreport, Outcome.toOption_eq_some.1 hforetold, by decide, by decide⟩

end Writer

end CliGen
