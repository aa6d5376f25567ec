import CliGen.Proofs.Artifact.Overlays

/-!
# What a report accounts for

Where the steps back to parent directories along the path of a directory lie in a part that exists,
the report on artifacts that were written below it tells of every file that changed: those that are
listed as written, and the backups of what they held before. All of it is known from the disk on
which the writing starts, and there is nothing left to do when it is repeated.
-/

namespace CliGen.Writer

variable {d : Disk} {w : Writer} {root : String} {artifacts : List Artifact} {a b c : Artifact}
  {report : WriteReport}

/-! ## Files that are not written -/

/-- The files below a directory are as before, except for artifacts that are written and backups of
these. -/
theorem get?_writeAll_iff (hrooted : d.storage.Rooted) (hanchored : d.Anchored root)
    (hplain : ∀ a ∈ artifacts, Path.IsPlain a.path) {p : String} (hp : Path.IsPlain p)
    (hpath : ∀ a ∈ artifacts, p ≠ a.path) (hbackup : ∀ a ∈ artifacts, p ≠ a.path ++ ".bak")
    {bytes : ByteArray} {mode : Nat} :
    (d.after (w.writeAll root artifacts)).get? (Path.join root p) = some (.file bytes mode) ↔
      d.get? (Path.join root p) = some (.file bytes mode) := by
  refine keeps_writeAll.get?_file_iff hanchored hrooted hp fun q hq => ?_
  obtain ⟨a, ha, rfl | rfl⟩ := mem_concerned.1 hq
  · exact Disk.apart_join hp (hplain a ha) (hpath a ha) _
  · rw [Path.backupPath_join (hplain a ha)]
    exact Disk.apart_join hp (hplain a ha).backup (hbackup a ha) _

/-! ## The report -/

/-- The report on artifacts as a disk lets expect it. -/
def expected (w : Writer) (d : Disk) (root : String) (artifacts : List Artifact) : WriteReport :=
  ⟨artifacts.map fun a => (Path.join root a.path, w.result d (Path.join root a.path) a), false⟩

/-- A list of the report shows the files of some of the artifacts if that is so of each file. -/
private theorem filterMap_expected {shown : String × FileOutcome → Option String}
    {p : Artifact → Bool} {f : Artifact → String}
    (h : ∀ a, shown (Path.join root a.path, w.result d (Path.join root a.path) a) =
      if p a then some (f a) else none) :
    (w.expected d root artifacts).files.filterMap shown = (artifacts.filter p).map f := by
  rw [expected, List.filterMap_map, ← List.filterMap_eq_map, List.filterMap_filter]
  refine List.filterMap_congr fun a _ => ?_
  rw [Function.comp_apply, h]
  rfl

/-- The files that differ or are absent are written, and those that hold their content stay. -/
theorem written_unchanged_expected :
    (w.expected d root artifacts).written =
      (artifacts.filter fun a => d.bytes? (Path.join root a.path) ≠ some a.content.toUTF8).map
        (fun a => Path.join root a.path) ∧
    (w.expected d root artifacts).unchanged =
      (artifacts.filter fun a => d.bytes? (Path.join root a.path) = some a.content.toUTF8).map
        fun a => Path.join root a.path := by
  refine ⟨filterMap_expected fun a => ?_, filterMap_expected fun a => ?_⟩
  all_goals
    rw [result]
    generalize a.content.toUTF8 = content
    by_cases hsame : d.bytes? (Path.join root a.path) = some content <;> simp [hsame]

/-- The files that differ have backups. -/
theorem backedUp_expected (hbackup : w.backup = true) : (w.expected d root artifacts).backedUp =
    (artifacts.filter fun a =>
      (d.bytes? (Path.join root a.path)).any (· ≠ a.content.toUTF8)).map
        fun a => backupPath (Path.join root a.path) := by
  refine filterMap_expected fun a => ?_
  rw [result, backup?, hbackup]
  generalize a.content.toUTF8 = content
  cases d.bytes? (Path.join root a.path) with
  | none => simp
  | some bytes => by_cases hsame : bytes = content <;> simp [hsame]

/-- What holds after independent artifacts were written: every file but theirs and the backups that
are reported is as it was, the backups hold what stood in their places, and the report is known from
the start. -/
structure Accounted (w : Writer) (d : Disk) (root : String) (artifacts : List Artifact)
    (report : WriteReport) (d' : Disk) : Prop where
  report_eq : report = w.expected d root artifacts
  keeps : d.Keeps (artifacts.map (fun a => Path.join root a.path) ++ report.backedUp) d'
  backups : w.backup = true → ∀ a ∈ artifacts, ∀ bytes mode,
    d.get? (Path.join root a.path) = some (.file bytes mode) → bytes ≠ a.content.toUTF8 →
      d'.get? (backupPath (Path.join root a.path)) = some (.file bytes mode)

/-- One more file that is written adds its backup, if it has one, to those reported. -/
theorem backedUp_concat {files : List (String × FileOutcome)} {path : String} :
    (⟨files ++ [(path, w.result d path a)], false⟩ : WriteReport).backedUp =
      (⟨files, false⟩ : WriteReport).backedUp ++ (w.backup? d path a).toList := by
  have hlast : (⟨[(path, w.result d path a)], false⟩ : WriteReport).backedUp =
      (w.backup? d path a).toList := by
    rw [result]
    split
    · next hsame =>
      rw [backup?, hsame]
      simp [WriteReport.backedUp]
    · cases w.backup? d path a <;> rfl
  rw [← hlast]
  exact List.filterMap_append

/-- One more artifact meets the file that stood at its path from the start, so it is accounted for
by what was there. -/
theorem Accounted.concat {earlier : WriteReport} {o : FileOutcome}
    (h : w.Accounted d root artifacts earlier (d.after (w.writeAll root artifacts)))
    (hrun : w.dryRun = false) (hfaults : d.faults = []) (hrooted : d.storage.Rooted)
    (hanchored : d.Anchored root) (hplain : ∀ a ∈ artifacts, Path.IsPlain a.path)
    (hc : Path.IsPlain c.path) (hnew : ∀ a ∈ artifacts, a.path ≠ c.path)
    (hfree : ∀ a ∈ artifacts, c.path ≠ a.path ++ ".bak")
    (hwrite : (d.after (w.writeAll root artifacts)).outcome
      (w.writeFile (Path.join root c.path) c) = .ok o) :
    w.Accounted d root (artifacts ++ [c]) ⟨earlier.files ++ [(Path.join root c.path, o)], false⟩
      ((d.after (w.writeAll root artifacts)).after (w.writeFile (Path.join root c.path) c)) := by
  have hfaults' : (d.after (w.writeAll root artifacts)).faults = [] := faults_writeAll hfaults
  -- The artifacts before have not touched the file of the last one.
  have hstood : ∀ bytes mode, (d.after (w.writeAll root artifacts)).get? (Path.join root c.path) =
      some (.file bytes mode) ↔ d.get? (Path.join root c.path) = some (.file bytes mode) :=
    fun bytes mode => get?_writeAll_iff hrooted hanchored hplain hc
      (fun a ha => (hnew a ha).symm) hfree
  have hbackup : w.backup? (d.after (w.writeAll root artifacts)) (Path.join root c.path) c =
      w.backup? d (Path.join root c.path) c := by
    rw [backup?, backup?, Disk.bytes?_congr hstood]
  have ho : o = w.result d (Path.join root c.path) c := by
    rw [eq_result_of_writeFile hrun hfaults' hwrite, result, result, hbackup,
      Disk.bytes?_congr hstood]
  have hlast : (d.after (w.writeAll root artifacts)).Keeps
      (Path.join root c.path :: (w.backup? d (Path.join root c.path) c).toList)
      ((d.after (w.writeAll root artifacts)).after (w.writeFile (Path.join root c.path) c)) :=
    hbackup ▸ keeps_writeFile
  rw [ho]
  refine ⟨?_, ?_, fun hmoves a ha bytes mode hfile hdiffers => ?_⟩
  · rw [h.report_eq, expected, expected, List.map_append, List.map_singleton]
  · have hbackedUp : (⟨earlier.files, false⟩ : WriteReport).backedUp = earlier.backedUp := by
      rw [h.report_eq, expected]
    rw [backedUp_concat, hbackedUp, List.map_append, List.map_singleton]
    refine (h.keeps.mono fun path hpath => ?_).trans (hlast.mono fun path hpath => ?_)
    · simp only [List.mem_append] at hpath ⊢
      tauto
    · simp only [List.mem_append, List.mem_cons, List.not_mem_nil, or_false] at hpath ⊢
      tauto
  · rcases List.mem_append.1 ha with hmem | hmem
    · -- The last one touches no backup of an artifact before it.
      have hap := hplain a hmem
      have hmoved := h.backups hmoves a hmem bytes mode hfile hdiffers
      rw [Path.backupPath_join hap] at hmoved ⊢
      refine keeps_writeFile.get?_file hmoved fun q hq =>
        apart_written hap.backup hc (hfree a hmem).symm (fun _ heq => ?_) q hq _
      exact hnew a hmem (String.append_left_inj _ |>.1 heq).symm
    · rw [List.mem_singleton] at hmem
      subst hmem
      refine get?_of_writeFile hrun hfaults' hwrite ((hstood bytes mode).2 hfile) hdiffers hmoves
        fun d' => ?_
      rw [Path.backupPath_join hc]
      exact Disk.apart_join hc.backup hc (Path.ne_backup a.path).symm d'

/-- The report of a real run is told by what stood on the disk before. -/
theorem accounted_writeAll (hrun : w.dryRun = false) (hfaults : d.faults = [])
    (hrooted : d.storage.Rooted) (hanchored : d.Anchored root)
    (hnodup : (artifacts.map (·.path)).Nodup)
    (hfree : ∀ a ∈ artifacts, ∀ b ∈ artifacts, b.path ≠ a.path ++ ".bak")
    (h : d.outcome (w.writeAll root artifacts) = .ok report) :
    w.Accounted d root artifacts report (d.after (w.writeAll root artifacts)) := by
  induction artifacts using List.reverseRecOn generalizing report with
  | nil =>
    refine ⟨?_, Disk.Keeps.refl _ _, by simp⟩
    rw [expected, ← hrun]
    exact (Except.ok.inj h).symm
  | append_singleton artifacts c ih =>
    have hplain := isPlain_of_writeAll h
    obtain ⟨earlier, o, hearlier, -, hwrite, hafter, hreport⟩ := exists_of_writeAll_concat h
    rw [List.map_append, List.map_singleton, List.nodup_append] at hnodup
    have haccounted := ih hnodup.1 (fun a ha b hb =>
      hfree a (List.mem_append_left _ ha) b (List.mem_append_left _ hb)) hearlier
    rw [hafter, hreport, hrun]
    exact haccounted.concat hrun hfaults hrooted hanchored
      (fun a ha => hplain a (List.mem_append_left _ ha)) (hplain c (by simp))
      (fun a ha => hnodup.2.2 _ (List.mem_map_of_mem ha) _ (by simp))
      (fun a ha => hfree a (List.mem_append_left _ ha) c (by simp)) hwrite

/-- Independent artifacts that were written all stand at their paths. -/
theorem holds_writeAll_of_free (hrun : w.dryRun = false) (hfaults : d.faults = [])
    (hnodup : (artifacts.map (·.path)).Nodup)
    (hfree : ∀ a ∈ artifacts, ∀ b ∈ artifacts, b.path ≠ a.path ++ ".bak")
    (h : d.outcome (w.writeAll root artifacts) = .ok report) (ha : a ∈ artifacts) :
    (d.after (w.writeAll root artifacts)).Holds (Path.join root a.path) a := by
  refine (overlaid_or_holds hrun hfaults hnodup h ha).2 fun bytes mode hover => ?_
  obtain ⟨-, b, hb, hbak⟩ := hover.exists_mem
  exact hfree b hb a ha hbak.symm

/-! ## Writing again -/

/-- Where all artifacts stand at their paths, the writing of them changes nothing. -/
theorem writeAll_of_holds (hrun : w.dryRun = false) (hfaults : d.faults = [])
    (hvalid : ∀ a ∈ artifacts, validatePath a.path = .ok ())
    (hholds : ∀ a ∈ artifacts, d.Holds (Path.join root a.path) a) :
    d.outcome (w.writeAll root artifacts) =
      .ok ⟨artifacts.map fun a => (Path.join root a.path, .unchanged), false⟩ ∧
        ∀ k, (d.after (w.writeAll root artifacts)).storage.get? k = d.storage.get? k := by
  induction artifacts using List.reverseRecOn with
  | nil => exact ⟨by rw [← hrun]; rfl, fun _ => rfl⟩
  | append_singleton artifacts c ih =>
    obtain ⟨hearlier, hsame⟩ := ih (fun a ha => hvalid a (List.mem_append_left _ ha))
      fun a ha => hholds a (List.mem_append_left _ ha)
    have hstill := (hholds c (by simp)).of_same directory_writeAll hsame
    obtain ⟨hwrite, hlast⟩ := writeFile_of_holds hrun (faults_writeAll hfaults) hstill
    obtain ⟨hall, hafter⟩ := outcome_writeAll_concat hearlier (hvalid c (by simp)) hwrite
    rw [hall, hafter, hrun, List.map_append, List.map_singleton]
    exact ⟨rfl, fun k => (hlast k).trans (hsame k)⟩

/-- **Backups are made of all files that differ, every other change is reported, and a second run
has nothing to do.** -/
theorem writeAll_accounts (hbackup : w.backup = true) (hrun : w.dryRun = false)
    (hfaults : d.faults = []) (hrooted : d.storage.Rooted) (hanchored : d.Anchored root)
    (hnodup : (artifacts.map (·.path)).Nodup)
    (hfree : ∀ a ∈ artifacts, ∀ b ∈ artifacts, b.path ≠ a.path ++ ".bak")
    (h : d.outcome (w.writeAll root artifacts) = .ok report) :
    let d' := d.after (w.writeAll root artifacts)
    (∀ a ∈ artifacts, ∀ bytes mode, d.get? (Path.join root a.path) = some (.file bytes mode) →
      bytes ≠ a.content.toUTF8 →
        d'.get? (backupPath (Path.join root a.path)) = some (.file bytes mode)) ∧
    (∀ l, (∀ a ∈ artifacts, d'.locate (Path.join root a.path) ≠ .ok l) →
      (∀ path ∈ report.backedUp, d'.locate path ≠ .ok l) → ∀ bytes mode,
        d'.storage.get? l = some (.file bytes mode) ↔ d.storage.get? l = some (.file bytes mode)) ∧
    report.written =
      (artifacts.filter fun a => d.bytes? (Path.join root a.path) ≠ some a.content.toUTF8).map
        (fun a => Path.join root a.path) ∧
    report.unchanged =
      (artifacts.filter fun a => d.bytes? (Path.join root a.path) = some a.content.toUTF8).map
        (fun a => Path.join root a.path) ∧
    report.backedUp =
      (artifacts.filter fun a =>
        (d.bytes? (Path.join root a.path)).any (· ≠ a.content.toUTF8)).map
          (fun a => backupPath (Path.join root a.path)) ∧
    ∃ again, d'.outcome (w.writeAll root artifacts) = .ok again ∧ again.written = [] ∧
      again.backedUp = [] ∧ again.unchanged = artifacts.map (fun a => Path.join root a.path) ∧
      ∀ l, (d'.after (w.writeAll root artifacts)).storage.get? l = d'.storage.get? l := by
  intro d'
  obtain ⟨hreport, hkeeps, hbackups⟩ :=
    accounted_writeAll hrun hfaults hrooted hanchored hnodup hfree h
  have hholds : ∀ a ∈ artifacts, d'.Holds (Path.join root a.path) a :=
    fun a ha => holds_writeAll_of_free hrun hfaults hnodup hfree h ha
  obtain ⟨hagain, hsame⟩ := writeAll_of_holds hrun (faults_writeAll hfaults)
    (validatePath_of_writeAll h) hholds
  refine ⟨hbackups hbackup, fun l hpaths hbacked => hkeeps.files l fun path hpath => ?_, ?_, ?_, ?_,
    _, hagain, ?_, ?_, ?_, hsame⟩
  · rcases List.mem_append.1 hpath with hpath | hpath
    · obtain ⟨a, ha, rfl⟩ := List.mem_map.1 hpath
      exact hpaths a ha
    · exact hbacked path hpath
  · rw [hreport, written_unchanged_expected.1]
  · rw [hreport, written_unchanged_expected.2]
  · rw [hreport, backedUp_expected hbackup]
  · simp [WriteReport.written]
  · simp [WriteReport.backedUp]
  · simp [WriteReport.unchanged]

/-- Two artifacts, of which the first replaces an older one. -/
def revised : List Artifact :=
  [.make "tool" "new" .entryPoint "entry", .make "setup" "same" .bootstrap "bootstrap"]

/-- A disk with an older version of two artifacts in a directory. -/
def released : Disk :=
  ⟨[(["out"], .directory), (["out", "tool"], .file "old".toUTF8 Storage.plainMode),
    (["out", "setup"], .file "same".toUTF8 Storage.plainMode)], [], []⟩

/-- The older version is kept, and the writing can be repeated. -/
theorem writeAll_accounts_released : ∃ report,
    released.outcome (writeAll ⟨true, false⟩ "out" revised) = .ok report ∧
      (∀ bytes mode, released.get? (Path.join "out" "tool") = some (.file bytes mode) →
        bytes ≠ "new".toUTF8 →
          (released.after (writeAll ⟨true, false⟩ "out" revised)).get?
            (backupPath (Path.join "out" "tool")) = some (.file bytes mode)) ∧
      ∃ again, (released.after (writeAll ⟨true, false⟩ "out" revised)).outcome
        (writeAll ⟨true, false⟩ "out" revised) = .ok again ∧ again.written = [] := by
  have hwritten : (released.outcome (writeAll ⟨true, false⟩ "out" revised)).toBool = true := by
    decide +kernel
  obtain ⟨report, hok⟩ := Outcome.toBool_eq_true.1 hwritten
  have hrooted : released.storage.Rooted := Storage.rooted_of_entries (by decide +kernel)
  have hanchored : released.Anchored "out" := Disk.anchored_of_down (by decide +kernel)
  obtain ⟨hbackups, -, -, -, -, again, hagain, hnone, -⟩ :=
    writeAll_accounts rfl rfl rfl hrooted hanchored (by decide) (by decide) hok
  exact ⟨report, hok, hbackups _ List.mem_cons_self, again, hagain, hnone⟩

/-- Where the directory is written with a step back from one that is missing, the older version is
taken for absent. It is replaced without a backup; and the other artifact, that is nowhere to be
found at first, is reported as unchanged. -/
theorem unaccounted_behind_missing :
    (∃ report, released.outcome (writeAll ⟨true, false⟩ "gone/../out" revised) = .ok report ∧
      report.backedUp = [] ∧ report.unchanged = ["gone/../out/setup"]) ∧
    released.get? "gone/../out/setup" = none ∧
    released.get? "out/tool" = some (.file "old".toUTF8 Storage.plainMode) ∧
    (released.after (writeAll ⟨true, false⟩ "gone/../out" revised)).bytes? "out/tool" =
      some "new".toUTF8 ∧
    (released.after (writeAll ⟨true, false⟩ "gone/../out" revised)).get? "out/tool.bak" = none := by
  have hreport : (released.outcome (writeAll ⟨true, false⟩ "gone/../out" revised)).toOption =
      some ⟨[("gone/../out/tool", .written none), ("gone/../out/setup", .unchanged)], false⟩ := by
    decide +kernel
  refine ⟨⟨_, Outcome.toOption_eq_some.1 hreport, rfl, rfl⟩, ?_, ?_, ?_, ?_⟩ <;> decide +kernel

end CliGen.Writer
