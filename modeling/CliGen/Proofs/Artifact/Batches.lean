import CliGen.Proofs.Artifact.Writing
import Mathlib.Data.List.Induction

/-!
# Writing one artifact after the other

Lists are written from the front, so what holds of them is shown by adding one artifact at the end
(`Writer.after_writeAll_concat`, `Writer.exists_of_writeAll_concat`). What a list can change is told
by `Writer.keeps_writeAll`.
-/

namespace CliGen.Writer

variable {d : Disk} {w : Writer} {path root : String} {artifacts : List Artifact} {a : Artifact}
  {report : WriteReport}

/-- Write an artifact below a directory. -/
def writeBelow (w : Writer) (root : String) (a : Artifact) :
    ExceptT Problem (StateM Disk) (String × FileOutcome) := do
  MonadExcept.ofExcept (validatePath a.path)
  return (Path.join root a.path, ← w.writeFile (Path.join root a.path) a)

/-- Artifacts are written one after the other, and all of them are reported. -/
theorem writeAll_eq : w.writeAll (m := StateM Disk) root artifacts = do
    let files ← artifacts.mapM (w.writeBelow root)
    return ⟨files, w.dryRun⟩ := rfl

/-- The last artifact of a list is written after the others. -/
theorem writeAll_concat : w.writeAll (m := StateM Disk) root (artifacts ++ [a]) = do
    let report ← w.writeAll root artifacts
    let file ← w.writeBelow root a
    return ⟨report.files ++ [file], w.dryRun⟩ := by
  simp [writeAll_eq, List.mapM_append]

/-- Writing an artifact below a root changes its path there and that of its backup. -/
theorem keeps_writeBelow :
    d.Keeps (Path.join root a.path :: (w.backup? d (Path.join root a.path) a).toList)
      (d.after (w.writeBelow root a)) := by
  unfold writeBelow
  refine Disk.keeps_bind (by simpa using Disk.Keeps.refl _ _) fun _ _ => ?_
  rw [Disk.after_ofExcept]
  exact Disk.keeps_bind keeps_writeFile fun _ _ => Disk.Keeps.refl _ _

/-- An artifact with a valid path is written at the joined path. -/
theorem writeBelow_of_valid (h : validatePath a.path = .ok ()) : w.writeBelow root a = do
    return (Path.join root a.path, ← w.writeFile (Path.join root a.path) a) := by
  unfold writeBelow
  rw [h]
  rfl

/-- An artifact with a path that is refused leaves the disk as it is. -/
theorem after_writeBelow (d : Disk) (w : Writer) (root : String) (a : Artifact) :
    d.after (w.writeBelow root a) = d ∨ validatePath a.path = .ok () ∧
      d.after (w.writeBelow root a) = d.after (w.writeFile (Path.join root a.path) a) := by
  cases hvalid : validatePath a.path with
  | error problem =>
    left
    have hrefused : d.outcome (MonadExcept.ofExcept (validatePath a.path) :
        ExceptT Problem (StateM Disk) Unit) = .error problem := by
      rw [Disk.outcome_ofExcept, hvalid]
    rw [writeBelow, Disk.after_bind_of_error hrefused, Disk.after_ofExcept]
  | ok u =>
    refine .inr ⟨rfl, ?_⟩
    rw [writeBelow_of_valid hvalid]
    cases hwrite : d.outcome (w.writeFile (Path.join root a.path) a) with
    | error problem => rw [Disk.after_bind_of_error hwrite]
    | ok o =>
      rw [Disk.after_bind_of_ok hwrite]
      rfl

/-- Once an artifact could not be written, nothing happens any more. -/
theorem after_writeAll_concat : d.after (w.writeAll root (artifacts ++ [a])) =
    if (d.outcome (w.writeAll root artifacts)).toBool then
      (d.after (w.writeAll root artifacts)).after (w.writeBelow root a)
    else d.after (w.writeAll root artifacts) := by
  rw [writeAll_concat]
  cases hfirst : d.outcome (w.writeAll root artifacts) with
  | error problem =>
    rw [Disk.after_bind_of_error hfirst]
    rfl
  | ok report =>
    rw [Disk.after_bind_of_ok hfirst]
    cases hlast : (d.after (w.writeAll root artifacts)).outcome (w.writeBelow root a) with
    | error problem =>
      rw [Disk.after_bind_of_error hlast]
      rfl
    | ok file =>
      rw [Disk.after_bind_of_ok hlast]
      rfl

/-- A list can be written if all but the last artifact can, and then that. -/
theorem outcome_writeAll_concat {earlier : WriteReport} {o : FileOutcome}
    (hearlier : d.outcome (w.writeAll root artifacts) = .ok earlier)
    (hvalid : validatePath a.path = .ok ())
    (hwrite : (d.after (w.writeAll root artifacts)).outcome
      (w.writeFile (Path.join root a.path) a) = .ok o) :
    d.outcome (w.writeAll root (artifacts ++ [a])) =
        .ok ⟨earlier.files ++ [(Path.join root a.path, o)], w.dryRun⟩ ∧
      d.after (w.writeAll root (artifacts ++ [a])) =
        (d.after (w.writeAll root artifacts)).after (w.writeFile (Path.join root a.path) a) := by
  have hbelow : (d.after (w.writeAll root artifacts)).outcome (w.writeBelow root a) =
      .ok (Path.join root a.path, o) := by
    rw [writeBelow_of_valid hvalid, Disk.outcome_bind_of_ok hwrite]
    rfl
  rw [writeAll_concat, Disk.outcome_bind_of_ok hearlier, Disk.after_bind_of_ok hearlier,
    Disk.outcome_bind_of_ok hbelow, Disk.after_bind_of_ok hbelow, writeBelow_of_valid hvalid,
    Disk.after_bind_of_ok hwrite]
  exact ⟨rfl, rfl⟩

/-- A list is written by writing all but the last artifact, and then that. -/
theorem exists_of_writeAll_concat
    (h : d.outcome (w.writeAll root (artifacts ++ [a])) = .ok report) :
    ∃ earlier o, d.outcome (w.writeAll root artifacts) = .ok earlier ∧
      validatePath a.path = .ok () ∧
      (d.after (w.writeAll root artifacts)).outcome (w.writeFile (Path.join root a.path) a) =
        .ok o ∧
      d.after (w.writeAll root (artifacts ++ [a])) =
        (d.after (w.writeAll root artifacts)).after (w.writeFile (Path.join root a.path) a) ∧
      report = ⟨earlier.files ++ [(Path.join root a.path, o)], w.dryRun⟩ := by
  rw [writeAll_concat] at h ⊢
  obtain ⟨earlier, hearlier, h⟩ := Disk.outcome_bind_eq_ok.1 h
  obtain ⟨file, hfile, h⟩ := Disk.outcome_bind_eq_ok.1 h
  rw [Disk.after_bind_of_ok hearlier, Disk.after_bind_of_ok hfile]
  have hvalid : validatePath a.path = .ok () := by
    unfold writeBelow at hfile
    obtain ⟨_, hvalid, -⟩ := Disk.outcome_bind_eq_ok.1 hfile
    rwa [Disk.outcome_ofExcept] at hvalid
  rw [writeBelow_of_valid hvalid] at hfile ⊢
  obtain ⟨o, ho, hpair⟩ := Disk.outcome_bind_eq_ok.1 hfile
  rw [Disk.after_bind_of_ok ho]
  rw [← Except.ok.inj hpair] at h
  exact ⟨earlier, o, hearlier, hvalid, ho, rfl, (Except.ok.inj h).symm⟩

/-- A single artifact is written where there is a place for it, though directories along its path
may be missing before. -/
theorem writeAll_singleton_of_hasPlace (hrun : w.dryRun = false) (hbackup : w.backup = false)
    (hfaults : d.faults = []) (hvalid : validatePath a.path = .ok ())
    (hfound : d.outcome (existing (Path.join root a.path)) = .ok none) {directory : String}
    (hparent : Path.parent? (Path.join root a.path) = some directory) {d' : Disk}
    (hmake : (Files.makeDirectories directory : StateM Disk _).run d = (.ok (), d'))
    (hfaults' : d'.faults = []) (h : d'.HasPlace directory (Path.join root a.path)) :
    (∃ report, d.outcome (w.writeAll root [a]) = .ok report) ∧
      d.after (w.writeAll root [a]) = d'.after (replace directory (Path.join root a.path) a) := by
  obtain ⟨hwrite, hafter⟩ := writeFile_of_hasPlace (a := a) hrun hbackup hfaults hfound (by simp)
    hparent hmake hfaults' h
  have hnothing : d.outcome (w.writeAll root []) = .ok ⟨[], w.dryRun⟩ := rfl
  obtain ⟨hall, hsame⟩ := outcome_writeAll_concat hnothing hvalid hwrite
  exact ⟨⟨_, hall⟩, hsame.trans hafter⟩

/-- The paths at which the writing of artifacts may change something. -/
def concerned (root : String) (artifacts : List Artifact) : List String :=
  artifacts.flatMap fun a => [Path.join root a.path, backupPath (Path.join root a.path)]

/-- A path is concerned as that of an artifact or of its backup. -/
theorem mem_concerned : path ∈ concerned root artifacts ↔ ∃ a ∈ artifacts,
    path = Path.join root a.path ∨ path = backupPath (Path.join root a.path) := by
  simp [concerned]

/-- The writing of artifacts changes the files at their paths and the backups of these. -/
theorem keeps_writeAll :
    d.Keeps (concerned root artifacts) (d.after (w.writeAll root artifacts)) := by
  induction artifacts using List.reverseRecOn with
  | nil => exact Disk.Keeps.refl _ _
  | append_singleton artifacts a ih =>
    rw [concerned, List.flatMap_append, List.flatMap_singleton, ← concerned]
    have hearlier := ih.mono (List.subset_append_left (concerned root artifacts)
      [Path.join root a.path, backupPath (Path.join root a.path)])
    rw [after_writeAll_concat]
    split
    · refine hearlier.trans (keeps_writeBelow.mono ?_)
      refine List.cons_subset.2 ⟨by simp, fun target htarget => ?_⟩
      obtain ⟨_, _, _, _, _, rfl⟩ := backup?_eq_some.1 (Option.mem_toList.1 htarget)
      simp
    · exact hearlier

/-- Where no faults are to come, none come up. -/
theorem faults_writeAll (hfaults : d.faults = []) :
    (d.after (w.writeAll root artifacts)).faults = [] := by
  rw [← List.suffix_nil, ← hfaults]
  exact keeps_writeAll.faults

/-- The directory to work in stays the same. -/
theorem directory_writeAll : (d.after (w.writeAll root artifacts)).directory = d.directory :=
  keeps_writeAll.grows.directory_eq

/-- Where all artifacts are written, all their paths are valid. -/
theorem validatePath_of_writeAll (h : d.outcome (w.writeAll root artifacts) = .ok report) :
    ∀ a ∈ artifacts, validatePath a.path = .ok () := by
  induction artifacts using List.reverseRecOn generalizing report with
  | nil => simp
  | append_singleton artifacts a ih =>
    obtain ⟨earlier, o, hearlier, hvalid, -⟩ := exists_of_writeAll_concat h
    intro b hb
    rcases List.mem_append.1 hb with hb | hb
    · exact ih hearlier b hb
    · rwa [List.mem_singleton.1 hb]

/-- Where all artifacts of a list are written, all paths are plain. -/
theorem isPlain_of_writeAll (h : d.outcome (w.writeAll root artifacts) = .ok report) :
    ∀ a ∈ artifacts, Path.IsPlain a.path :=
  fun a ha => Path.isPlain_of_validatePath (validatePath_of_writeAll h a ha)

/-- A path is apart from what the writing of an artifact changes if it is neither the path of the
artifact nor that of a backup that is made. -/
theorem apart_written {p : String} (hp : Path.IsPlain p) (ha : Path.IsPlain a.path)
    (hpath : p ≠ a.path)
    (hbackup : (w.backup? d (Path.join root a.path) a).isSome → a.path ++ ".bak" ≠ p) :
    ∀ q ∈ Path.join root a.path :: (w.backup? d (Path.join root a.path) a).toList,
      ∀ d' : Disk, d'.Apart (Path.join root p) q := by
  intro q hq d'
  rcases List.mem_cons.1 hq with rfl | hq
  · exact Disk.apart_join hp ha hpath d'
  · have htarget := Option.mem_toList.1 hq
    obtain ⟨_, _, _, _, _, rfl⟩ := backup?_eq_some.1 htarget
    rw [Path.backupPath_join ha]
    exact Disk.apart_join hp ha.backup (hbackup (Option.isSome_of_mem htarget)).symm d'

/-- One more artifact leaves all directories where they are. -/
theorem grows_writeAll_concat : (d.after (w.writeAll root artifacts)).Grows
    (d.after (w.writeAll root (artifacts ++ [a]))) := by
  rw [after_writeAll_concat]
  split
  · exact keeps_writeBelow.grows
  · exact ⟨rfl, fun _ h => h⟩

/-- More artifacts leave all directories where they are. -/
theorem grows_writeAll_append (artifacts more : List Artifact) :
    (d.after (w.writeAll root artifacts)).Grows
      (d.after (w.writeAll root (artifacts ++ more))) := by
  induction more using List.reverseRecOn with
  | nil =>
    rw [List.append_nil]
    exact ⟨rfl, fun _ h => h⟩
  | append_singleton more a ih =>
    rw [← List.append_assoc]
    exact ih.trans grows_writeAll_concat

/-- One more artifact, in another place and without a backup, leaves those that were written. -/
theorem holds_writeAll_concat {b : Artifact} (hbackup : w.backup = false)
    (hb : Path.IsPlain b.path) (ha : Path.IsPlain a.path) (hne : b.path ≠ a.path)
    (h : (d.after (w.writeAll root artifacts)).Holds (Path.join root b.path) b) :
    (d.after (w.writeAll root (artifacts ++ [a]))).Holds (Path.join root b.path) b := by
  rw [after_writeAll_concat]
  split
  · refine h.of_keeps keeps_writeBelow fun q hq => apart_written hb ha hne (fun hsome => ?_) q hq _
    obtain ⟨target, htarget⟩ := Option.isSome_iff_exists.1 hsome
    obtain ⟨_, _, _, _, hmoves, _⟩ := backup?_eq_some.1 htarget
    rw [hbackup] at hmoves
    cases hmoves
  · exact h

end CliGen.Writer
