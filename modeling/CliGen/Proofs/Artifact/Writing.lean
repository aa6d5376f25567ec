import CliGen.Proofs.Storage.Operations

/-!
# Writing one artifact

`Writer.keeps_writeFile` tells which files the writing of an artifact can change, whatever comes of
it: the file at its path, and its backup if there is something to move away.
`Writer.holds_writeFile` and `Writer.eq_result_of_writeFile` tell what stands at the path and what
is reported if it succeeds; `Writer.writeFile_of_hasPlace` tells where it does.
-/

namespace CliGen

namespace Disk

variable {d d' : Disk} {path : String}

/-- The bytes of the file that a path leads to. -/
def bytes? (d : Disk) (path : String) : Option ByteArray :=
  match d.get? path with
  | some (.file bytes _) => some bytes
  | _ => none

/-- A path has bytes if a file stands there. -/
theorem bytes?_eq_some {bytes : ByteArray} :
    d.bytes? path = some bytes ↔ ∃ mode, d.get? path = some (.file bytes mode) := by
  rw [bytes?]
  split
  · next h => simp [h]
  · next h => simp only [reduceCtorEq, false_iff, not_exists]; exact h bytes

/-- Where the same files stand, the same bytes are found. -/
theorem bytes?_congr (h : ∀ bytes mode, d'.get? path = some (.file bytes mode) ↔
    d.get? path = some (.file bytes mode)) : d'.bytes? path = d.bytes? path := by
  ext bytes
  simp only [bytes?_eq_some, h]

/-- An artifact is found where a path leads, with its content and the right to run it if it is
executable. -/
def Holds (d : Disk) (path : String) (a : Artifact) : Prop :=
  ∃ mode, d.get? path = some (.file a.content.toUTF8 mode) ∧
    (a.executable = true → mode = Storage.executableMode)

/-- An artifact in its place stays there while other paths are worked on. -/
theorem Holds.of_keeps {a : Artifact} {paths : List String} (h : d.Holds path a)
    (hkeeps : d.Keeps paths d') (hapart : ∀ p ∈ paths, d'.Apart path p) : d'.Holds path a := by
  obtain ⟨mode, hfile, hmode⟩ := h
  exact ⟨mode, hkeeps.get?_file hfile hapart, hmode⟩

/-- Whether an artifact is in its place depends on what stands on the disk only. -/
theorem Holds.of_same {a : Artifact} (h : d.Holds path a) (hdirectory : d'.directory = d.directory)
    (hsame : ∀ k, d'.storage.get? k = d.storage.get? k) : d'.Holds path a := by
  obtain ⟨mode, hfile, hmode⟩ := h
  obtain ⟨k, hlocate, hk⟩ := get?_eq_some.1 hfile
  have hgrows : d.Grows d' := ⟨hdirectory, fun l hl => (hsame l).trans hl⟩
  exact ⟨mode, get?_eq_some.2 ⟨k, hgrows.locate hlocate, (hsame k).trans hk⟩, hmode⟩

section OnFile

variable {α : Type} {operation : String} {step : StateM Disk (Except SystemError α)} {a : α}

/-- Naming the file of an operation does not change what the operation does. -/
@[simp]
theorem after_onFile : d.after (onFile path operation step) = (step.run d).2 := rfl

/-- Naming the file of an operation does not change when it succeeds. -/
@[simp]
theorem outcome_onFile_eq_ok :
    d.outcome (onFile path operation step) = .ok a ↔ (step.run d).1 = .ok a := by
  change (step.run d).1.mapError _ = .ok a ↔ _
  cases (step.run d).1 <;> simp [Except.mapError]

end OnFile

end Disk

namespace Writer

variable {d : Disk} {w : Writer} {path directory : String} {a : Artifact} {backup : Option String}

/-- The path that a file is moved to when an artifact is written over it. -/
def backup? (w : Writer) (d : Disk) (path : String) (a : Artifact) : Option String :=
  match d.bytes? path with
  | some bytes =>
    if bytes ≠ a.content.toUTF8 ∧ w.backup = true then some (backupPath path) else none
  | none => none

/-- A backup is made of a file with other content, if backups are asked for. -/
theorem backup?_eq_some {target : String} : w.backup? d path a = some target ↔
    ∃ bytes mode, d.get? path = some (.file bytes mode) ∧ bytes ≠ a.content.toUTF8 ∧
      w.backup = true ∧ backupPath path = target := by
  rw [backup?]
  cases hbytes : d.bytes? path with
  | none =>
    simp only [reduceCtorEq, false_iff, not_exists, not_and]
    intro bytes mode hfile
    rw [Disk.bytes?_eq_some.2 ⟨mode, hfile⟩] at hbytes
    cases hbytes
  | some bytes =>
    obtain ⟨mode, hfile⟩ := Disk.bytes?_eq_some.1 hbytes
    simp only [Option.ite_none_right_eq_some, Option.some.injEq, hfile, Entry.file.injEq]
    constructor
    · rintro ⟨⟨hne, hbackup⟩, htarget⟩
      exact ⟨bytes, mode, ⟨rfl, rfl⟩, hne, hbackup, htarget⟩
    · rintro ⟨_, _, ⟨rfl, rfl⟩, hne, hbackup, htarget⟩
      exact ⟨⟨hne, hbackup⟩, htarget⟩

/-- The backup of what is found, where the content differs. -/
theorem eq_backup?_of_found {found : Option ByteArray} (hfound : d.bytes? path = found)
    (hdiffers : found ≠ some a.content.toUTF8) :
    (if found.isSome && w.backup then some (backupPath path) else none) =
      w.backup? d path a := by
  rw [backup?, hfound]
  cases found with
  | none => rfl
  | some bytes =>
    have hne : bytes ≠ a.content.toUTF8 := fun heq => hdiffers (congrArg some heq)
    simp only [Option.isSome_some, Bool.true_and, hne, ne_eq, not_false_iff, true_and]

/-! ## What may change -/

/-- Reading leaves behind what an operation that reads does. -/
theorem after_existing :
    d.after (existing path) = ((Files.read path : StateM Disk _).run d).2 := by
  rw [Disk.after, existing, ExceptT.run_mk, StateT.run_bind]
  rcases (Files.read path : StateM Disk _).run d with ⟨⟨fault, text⟩ | bytes, d'⟩
  · cases fault <;> rfl
  · rfl

/-- What an artifact is compared with: the bytes of a file that can be read, or nothing where none
is found. -/
theorem outcome_existing_eq_ok {found : Option ByteArray} :
    d.outcome (existing path) = .ok found ↔
      (∃ bytes, ((Files.read path : StateM Disk _).run d).1 = .ok bytes ∧ found = some bytes) ∨
        (∃ text, ((Files.read path : StateM Disk _).run d).1 = .error ⟨.notFound, text⟩) ∧
          found = none := by
  rw [Disk.outcome, existing, ExceptT.run_mk, StateT.run_bind]
  rcases (Files.read path : StateM Disk _).run d with ⟨⟨fault, text⟩ | bytes, d'⟩
  · cases fault with
    | notFound =>
      change Except.ok none = Except.ok found ↔ _
      simp [eq_comm]
    | permissionDenied | alreadyExists | other =>
      change Except.error _ = Except.ok found ↔ _
      simp
  · change Except.ok (some bytes) = Except.ok found ↔ _
    simp [eq_comm]

/-- Looking for a file changes none. -/
theorem keeps_existing : d.Keeps [] (d.after (existing path)) := by
  rw [after_existing]
  exact Disk.keeps_read

/-- What is found is what stands where the path leads. -/
theorem bytes?_of_existing {bytes : ByteArray}
    (h : d.outcome (existing path) = .ok (some bytes)) : d.bytes? path = some bytes := by
  rcases outcome_existing_eq_ok.1 h with ⟨_, hread, hfound⟩ | ⟨-, hfound⟩
  · cases hfound
    exact Disk.bytes?_eq_some.2 (Disk.get?_of_read hread)
  · cases hfound

/-- Without faults looking for a file leaves the disk as it is. -/
theorem after_existing_of_faults (hfaults : d.faults = []) : d.after (existing path) = d := by
  rw [after_existing, Disk.run_read hfaults]

/-- Without faults a file that stands there is found with its bytes. -/
theorem outcome_existing_of_get? (hfaults : d.faults = []) {bytes : ByteArray} {mode : Nat}
    (h : d.get? path = some (.file bytes mode)) :
    d.outcome (existing path) = .ok (some bytes) := by
  rw [outcome_existing_eq_ok, Disk.run_read hfaults]
  obtain ⟨l, hlocate, hfile⟩ := Disk.get?_eq_some.1 h
  simp [hlocate, bind, Except.bind, Storage.read, hfile]

/-- Without faults, nothing is found only where no file stands. -/
theorem bytes?_of_existing_none (hfaults : d.faults = [])
    (h : d.outcome (existing path) = .ok none) : d.bytes? path = none := by
  rw [Option.eq_none_iff_forall_ne_some]
  intro bytes hbytes
  obtain ⟨mode, hfile⟩ := Disk.bytes?_eq_some.1 hbytes
  rw [outcome_existing_of_get? hfaults hfile] at h
  cases h

/-- Finishing a draft changes the file of its path only. -/
theorem keeps_finish (draft : Disk.Draft) :
    d.Keeps [path] (d.after (finish (m := StateM Disk) draft path a)) := by
  unfold finish
  refine Disk.keeps_bind (Disk.keeps_fill.mono (by simp)) fun filled _ => ?_
  dsimp only
  split
  · exact Disk.keeps_bind (Disk.keeps_makeDraftExecutable.mono (by simp)) fun ready _ =>
      Disk.keeps_persist
  · rw [pure_bind]
    exact Disk.keeps_persist

/-- Writing by way of a draft changes the file of its path only. -/
theorem keeps_replace : d.Keeps [path] (d.after (replace directory path a)) := by
  unfold replace
  refine Disk.keeps_bind (Disk.keeps_draft.mono (by simp)) fun draft _ => ?_
  exact Disk.keeps_tryCatch (keeps_finish draft) fun problem => Disk.Keeps.refl _ _

/-- Installing an artifact changes its path and that of its backup. -/
theorem keeps_install :
    d.Keeps (path :: backup.toList) (d.after (install path backup a)) := by
  unfold install
  split
  · exact Disk.Keeps.refl _ _
  · next directory _ =>
    refine Disk.keeps_bind (Disk.keeps_makeDirectories.mono (by simp)) fun _ _ => ?_
    cases backup with
    | none => exact keeps_replace
    | some target =>
      exact Disk.keeps_bind Disk.keeps_move fun _ _ => keeps_replace.mono (by simp)

/-- The writing of an artifact changes the file at its path and the backup of it. -/
theorem keeps_writeFile : d.Keeps (path :: (w.backup? d path a).toList)
    (d.after (w.writeFile path a)) := by
  unfold writeFile
  refine Disk.keeps_bind (keeps_existing.mono (by simp)) fun found hfound => ?_
  dsimp only
  split
  · split
    · exact Disk.keeps_bind (Disk.keeps_makeExecutable.mono (by simp)) fun _ _ =>
        Disk.Keeps.refl _ _
    · exact Disk.Keeps.refl _ _
  · next hdiffers =>
    split
    · exact Disk.Keeps.refl _ _
    have hbackup : (if found.isSome && w.backup then some (backupPath path) else none).toList ⊆
        (w.backup? d path a).toList := by
      cases found with
      | none => exact List.nil_subset _
      | some bytes =>
        rw [eq_backup?_of_found (bytes?_of_existing hfound) hdiffers]
        exact List.Subset.refl _
    exact Disk.keeps_bind (keeps_install.mono (List.cons_subset_cons _ hbackup)) fun _ _ =>
      Disk.Keeps.refl _ _

/-! ## What is written -/

/-- A draft that is finished leaves its artifact in place. -/
theorem holds_finish {draft : Disk.Draft}
    (h : d.outcome (finish (m := StateM Disk) draft path a) = .ok ()) :
    (d.after (finish (m := StateM Disk) draft path a)).Holds path a := by
  unfold finish at h ⊢
  obtain ⟨filled, hfill, h⟩ := Disk.outcome_bind_eq_ok.1 h
  rw [Disk.after_bind_of_ok hfill]
  obtain rfl := Disk.eq_of_fill (Disk.outcome_onFile_eq_ok.1 hfill)
  dsimp only at h ⊢
  split at h
  · next hexecutable =>
    obtain ⟨ready, hready, hpersist⟩ := Disk.outcome_bind_eq_ok.1 h
    rw [if_pos hexecutable, Disk.after_bind_of_ok hready]
    obtain rfl := Disk.eq_of_makeDraftExecutable (Disk.outcome_onFile_eq_ok.1 hready)
    exact ⟨_, Disk.get?_of_persist (Disk.outcome_onFile_eq_ok.1 hpersist), fun _ => rfl⟩
  · next hplain =>
    rw [pure_bind] at h
    rw [if_neg hplain, pure_bind]
    exact ⟨_, Disk.get?_of_persist (Disk.outcome_onFile_eq_ok.1 h),
      fun hexecutable => absurd hexecutable hplain⟩

/-- Writing that succeeds leaves the artifact in place. -/
theorem holds_replace (h : d.outcome (replace directory path a) = .ok ()) :
    (d.after (replace directory path a)).Holds path a := by
  unfold replace at h ⊢
  obtain ⟨draft, hdraft, h⟩ := Disk.outcome_bind_eq_ok.1 h
  rw [Disk.after_bind_of_ok hdraft]
  rw [Disk.outcome, Disk.run_tryCatch] at h
  rw [Disk.after, Disk.run_tryCatch]
  cases hfinish : Disk.outcome _ (finish draft path a) with
  | error problem =>
    rw [hfinish] at h
    cases h
  | ok u => exact holds_finish hfinish

/-- Installing that succeeds leaves the artifact in place. -/
theorem holds_install (h : d.outcome (install path backup a) = .ok ()) :
    (d.after (install path backup a)).Holds path a := by
  unfold install at h ⊢
  split at h
  · cases h
  · next directory _ =>
    obtain ⟨_, hmake, h⟩ := Disk.outcome_bind_eq_ok.1 h
    rw [Disk.after_bind_of_ok hmake]
    cases backup with
    | none => exact holds_replace h
    | some target =>
      obtain ⟨_, hmove, hreplace⟩ := Disk.outcome_bind_eq_ok.1 h
      dsimp only
      rw [Disk.after_bind_of_ok hmove]
      exact holds_replace hreplace

/-- What stood where an artifact is written is found where it was moved to. -/
theorem get?_of_install {target : String} {bytes : ByteArray} {mode : Nat}
    (hfile : d.get? path = some (.file bytes mode))
    (h : d.outcome (install path (some target) a) = .ok ())
    (hapart : ∀ d : Disk, d.Apart target path) :
    (d.after (install path (some target) a)).get? target = some (.file bytes mode) := by
  unfold install at h ⊢
  split at h
  · cases h
  · next directory _ =>
    obtain ⟨_, hmake, h⟩ := Disk.outcome_bind_eq_ok.1 h
    rw [Disk.after_bind_of_ok hmake]
    obtain ⟨_, hmove, hreplace⟩ := Disk.outcome_bind_eq_ok.1 h
    dsimp only
    rw [Disk.after_bind_of_ok hmove]
    have hmade : d.Keeps [] (d.after (onFile directory "create directory"
        (Files.makeDirectories directory))) := Disk.keeps_makeDirectories
    have hstill := hmade.get?_file hfile (by simp)
    obtain ⟨bytes', mode', hsource, htarget⟩ :=
      Disk.get?_of_move (Disk.outcome_onFile_eq_ok.1 hmove)
    have heq := hsource.symm.trans hstill
    rw [Option.some.injEq, Entry.file.injEq] at heq
    rw [heq.1, heq.2] at htarget
    exact keeps_replace.get?_file htarget (by simpa using hapart _)

/-- What is reported where an artifact is written. -/
def result (w : Writer) (d : Disk) (path : String) (a : Artifact) : FileOutcome :=
  if d.bytes? path = some a.content.toUTF8 then .unchanged else .written (w.backup? d path a)

/-- Without faults what is found is what stands there. -/
theorem bytes?_of_existing_ok (hfaults : d.faults = []) {found : Option ByteArray}
    (h : d.outcome (existing path) = .ok found) : d.bytes? path = found := by
  cases found with
  | none => exact bytes?_of_existing_none hfaults h
  | some bytes => exact bytes?_of_existing h

/-- Without faults, the writing of an artifact that succeeds leaves the content that stands at its
path, or puts it there. -/
theorem writeFile_cases (hrun : w.dryRun = false) (hfaults : d.faults = []) {o : FileOutcome}
    (h : d.outcome (w.writeFile path a) = .ok o) :
    (d.bytes? path = some a.content.toUTF8 ∧ o = .unchanged ∧
      (a.executable = true → ((Files.makeExecutable path : StateM Disk _).run d).1 = .ok ()) ∧
      d.after (w.writeFile path a) =
        if a.executable then ((Files.makeExecutable path : StateM Disk _).run d).2 else d) ∨
    (d.bytes? path ≠ some a.content.toUTF8 ∧ o = .written (w.backup? d path a) ∧
      d.outcome (install path (w.backup? d path a) a) = .ok () ∧
      d.after (w.writeFile path a) = d.after (install path (w.backup? d path a) a)) := by
  unfold writeFile at h ⊢
  obtain ⟨found, hexisting, h⟩ := Disk.outcome_bind_eq_ok.1 h
  rw [Disk.after_bind_of_ok hexisting]
  rw [after_existing_of_faults hfaults] at h ⊢
  have hfound := bytes?_of_existing_ok hfaults hexisting
  simp only [hrun, Bool.not_false, Bool.and_true] at h ⊢
  -- The file has the content already, or it is written anew.
  split at h
  · next hsame =>
    refine .inl ⟨hfound.trans hsame, ?_⟩
    rw [if_pos hsame]
    split at h
    · next hexecutable =>
      obtain ⟨_, hset, ho⟩ := Disk.outcome_bind_eq_ok.1 h
      rw [if_pos hexecutable, if_pos hexecutable, Disk.after_bind_of_ok hset]
      exact ⟨(Except.ok.inj ho).symm, fun _ => Disk.outcome_onFile_eq_ok.1 hset, rfl⟩
    · next hplain =>
      rw [if_neg hplain, if_neg hplain]
      exact ⟨(Except.ok.inj h).symm, fun hexecutable => absurd hexecutable hplain, rfl⟩
  · next hdiffers =>
    rw [← hfound] at hdiffers
    rw [← hfound, eq_backup?_of_found rfl hdiffers] at h ⊢
    rw [if_neg Bool.false_ne_true] at h
    rw [if_neg hdiffers, if_neg Bool.false_ne_true]
    obtain ⟨_, hinstall, ho⟩ := Disk.outcome_bind_eq_ok.1 h
    refine .inr ⟨hdiffers, (Except.ok.inj ho).symm, hinstall, ?_⟩
    rw [Disk.after_bind_of_ok hinstall]
    rfl

/-- An artifact that is written stands at its path. -/
theorem holds_writeFile (hrun : w.dryRun = false) (hfaults : d.faults = []) {o : FileOutcome}
    (h : d.outcome (w.writeFile path a) = .ok o) : (d.after (w.writeFile path a)).Holds path a := by
  rcases writeFile_cases hrun hfaults h with ⟨hbytes, -, hset, hafter⟩ | ⟨-, -, hinstall, hafter⟩
  · obtain ⟨mode, hfile⟩ := Disk.bytes?_eq_some.1 hbytes
    rw [hafter]
    split
    · next hexecutable =>
      exact ⟨_, Disk.get?_of_makeExecutable hfile (hset hexecutable), fun _ => rfl⟩
    · next hplain => exact ⟨mode, hfile, fun hexecutable => absurd hexecutable hplain⟩
  · rw [hafter]
    exact holds_install hinstall

/-- Without faults what is reported is told by what stood there before. -/
theorem eq_result_of_writeFile (hrun : w.dryRun = false) (hfaults : d.faults = [])
    {o : FileOutcome} (h : d.outcome (w.writeFile path a) = .ok o) : o = w.result d path a := by
  rw [result]
  rcases writeFile_cases hrun hfaults h with ⟨hbytes, ho, -⟩ | ⟨hbytes, ho, -⟩
  · rw [ho, if_pos hbytes]
  · rw [ho, if_neg hbytes]

/-- What stood where an artifact is written is found at the path of the backup. -/
theorem get?_of_writeFile (hrun : w.dryRun = false) (hfaults : d.faults = []) {o : FileOutcome}
    (h : d.outcome (w.writeFile path a) = .ok o) {bytes : ByteArray} {mode : Nat}
    (hfile : d.get? path = some (.file bytes mode)) (hdiffers : bytes ≠ a.content.toUTF8)
    (hbackup : w.backup = true) (hapart : ∀ d : Disk, d.Apart (backupPath path) path) :
    (d.after (w.writeFile path a)).get? (backupPath path) = some (.file bytes mode) := by
  have htarget : w.backup? d path a = some (backupPath path) :=
    backup?_eq_some.2 ⟨bytes, mode, hfile, hdiffers, hbackup, rfl⟩
  rcases writeFile_cases hrun hfaults h with ⟨hbytes, -⟩ | ⟨-, -, hinstall, hafter⟩
  · rw [Disk.bytes?_eq_some.2 ⟨mode, hfile⟩, Option.some.injEq] at hbytes
    exact absurd hbytes hdiffers
  · rw [htarget] at hinstall hafter
    rw [hafter]
    exact get?_of_install hfile hinstall hapart

/-- An artifact that stands at its path is left alone. -/
theorem writeFile_of_holds (hrun : w.dryRun = false) (hfaults : d.faults = [])
    (h : d.Holds path a) : d.outcome (w.writeFile path a) = .ok .unchanged ∧
      ∀ k, (d.after (w.writeFile path a)).storage.get? k = d.storage.get? k := by
  obtain ⟨mode, hfile, hmode⟩ := h
  have hexisting := outcome_existing_of_get? hfaults hfile
  unfold writeFile
  rw [Disk.outcome_bind_of_ok hexisting, Disk.after_bind_of_ok hexisting,
    after_existing_of_faults hfaults]
  simp only [hrun, Bool.not_false, Bool.and_true, if_pos]
  split
  · next hexecutable =>
    rw [hmode hexecutable] at hfile
    obtain ⟨hmade, hsame⟩ := Disk.run_makeExecutable_of_executable hfaults hfile
    have hset : d.outcome (onFile path "set permissions" (Files.makeExecutable path)) = .ok () :=
      Disk.outcome_onFile_eq_ok.2 hmade
    rw [Disk.outcome_bind_of_ok hset, Disk.after_bind_of_ok hset]
    exact ⟨rfl, hsame⟩
  · exact ⟨rfl, fun _ => rfl⟩

/-! ## Where writing succeeds -/

/-- Without faults a draft is finished where it has a place. -/
theorem outcome_finish (hfaults : d.faults = []) (draft : Disk.Draft)
    (h : d.HasPlace directory path) :
    d.outcome (finish (m := StateM Disk) draft path a) = .ok () := by
  have hfill := Disk.run_fill hfaults draft a.content.toUTF8
  have hfilled : d.outcome (onFile path "write"
      (Files.fill (m := StateM Disk) draft a.content.toUTF8)) = .ok _ :=
    Disk.outcome_onFile_eq_ok.2 (congrArg Prod.fst hfill)
  unfold finish
  rw [Disk.outcome_bind_of_ok hfilled, Disk.after_onFile, hfill]
  dsimp only
  split
  · have hset := Disk.run_makeDraftExecutable hfaults { draft with bytes := a.content.toUTF8 }
    have hready (p : String) : d.outcome (onFile p "set permissions" (Files.makeDraftExecutable
        (m := StateM Disk) { draft with bytes := a.content.toUTF8 })) = .ok _ :=
      Disk.outcome_onFile_eq_ok.2 (congrArg Prod.fst hset)
    rw [Disk.outcome_bind_of_ok (hready _), Disk.after_onFile, hset, Disk.outcome_onFile_eq_ok]
    exact Disk.outcome_persist hfaults _ h
  · rw [pure_bind, Disk.outcome_onFile_eq_ok]
    exact Disk.outcome_persist hfaults _ h

/-- Without faults an artifact is written where it has a place. -/
theorem outcome_replace (hfaults : d.faults = []) (h : d.HasPlace directory path) :
    d.outcome (replace directory path a) = .ok () := by
  have hrun := Disk.run_draft_of_directory hfaults h.ne_empty h.directory
  have hdraft : d.outcome (onFile directory "create temporary file" (Files.draft directory)) =
      .ok _ := Disk.outcome_onFile_eq_ok.2 (congrArg Prod.fst hrun)
  unfold replace
  rw [Disk.outcome_bind_of_ok hdraft, Disk.after_onFile, hrun, Disk.outcome, Disk.run_tryCatch,
    outcome_finish hfaults _ h]

/-- Once the directories along the path are made, an artifact is put in its place. -/
theorem install_of_makeDirectories (hparent : Path.parent? path = some directory) {d' : Disk}
    (hmake : (Files.makeDirectories directory : StateM Disk _).run d = (.ok (), d')) :
    d.outcome (install path none a) = d'.outcome (replace directory path a) ∧
      d.after (install path none a) = d'.after (replace directory path a) := by
  have hmade : d.outcome (onFile directory "create directory" (Files.makeDirectories directory)) =
      .ok () := Disk.outcome_onFile_eq_ok.2 (congrArg Prod.fst hmake)
  unfold install
  rw [hparent]
  dsimp only
  rw [Disk.outcome_bind_of_ok hmade, Disk.after_bind_of_ok hmade, Disk.after_onFile, hmake]
  exact ⟨rfl, rfl⟩

/-- **Where there is a place for it, an artifact is written.** The directories along its path may be
missing before. -/
theorem writeFile_of_hasPlace (hrun : w.dryRun = false) (hbackup : w.backup = false)
    (hfaults : d.faults = []) {found : Option ByteArray}
    (hfound : d.outcome (existing path) = .ok found) (hdiffers : found ≠ some a.content.toUTF8)
    (hparent : Path.parent? path = some directory) {d' : Disk}
    (hmake : (Files.makeDirectories directory : StateM Disk _).run d = (.ok (), d'))
    (hfaults' : d'.faults = []) (h : d'.HasPlace directory path) :
    d.outcome (w.writeFile path a) = .ok (.written none) ∧
      d.after (w.writeFile path a) = d'.after (replace directory path a) := by
  obtain ⟨houtcome, hafter⟩ := install_of_makeDirectories (a := a) hparent hmake
  have hinstall := houtcome.trans (outcome_replace hfaults' h)
  unfold writeFile
  rw [Disk.outcome_bind_of_ok hfound, Disk.after_bind_of_ok hfound,
    after_existing_of_faults hfaults]
  simp only [hrun, hbackup, Bool.and_false, if_neg hdiffers, if_neg Bool.false_ne_true]
  rw [Disk.outcome_bind_of_ok hinstall, Disk.after_bind_of_ok hinstall, ← hafter]
  exact ⟨rfl, rfl⟩

end Writer

end CliGen
