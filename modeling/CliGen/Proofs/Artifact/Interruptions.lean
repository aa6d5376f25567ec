import CliGen.Proofs.Artifact.DryRun
import Mathlib.Data.List.Nodup

/-!
# Interrupted writing

Any operation may be refused, and the writing of a list ends there. Where an artifact belongs there
is nothing then but what was there before or all of its content (`Disk.Settles`). Without backups
one of the two is always there (`Disk.Replaces`); with backups, what was found along the path before
is still found there or along the path of the backup (`Writer.saved_writeFile`). All of it is shown
for each operation, and holds of a list because no artifact touches what is another's.
-/

namespace CliGen

namespace Disk

variable {d d' d'' : Disk} {ε α β : Type} {path : String} {paths : List String} {l : Location}
  {content bytes : ByteArray}

/-- A path has bytes if its location can be read. -/
theorem bytes?_eq_some_iff_read : d.bytes? path = some bytes ↔
    ∃ k, d.locate path = .ok k ∧ d.storage.read k = .ok bytes := by
  simp only [bytes?_eq_some, get?_eq_some, Storage.read_eq_ok]
  tauto

/-- A file away from the paths that are worked on keeps its bytes. -/
theorem Keeps.bytes? (h : d.Keeps paths d') (hfile : d.bytes? path = some bytes)
    (hapart : ∀ p ∈ paths, d'.Apart path p) : d'.bytes? path = some bytes := by
  obtain ⟨mode, hfile⟩ := bytes?_eq_some.1 hfile
  exact bytes?_eq_some.2 ⟨mode, h.get?_file hfile hapart⟩

/-- The bytes at a path depend on the storage and the directory to work in. -/
theorem bytes?_of_storage (hstorage : d'.storage = d.storage)
    (hdirectory : d'.directory = d.directory) : d'.bytes? path = d.bytes? path := by
  rw [bytes?, bytes?, get?, get?, locate, locate, hstorage, hdirectory]

/-! ## What becomes of a file -/

/-- A location holds the file it held, or a file with some content. -/
def Replaces (d : Disk) (content : ByteArray) (l : Location) (d' : Disk) : Prop :=
  (∀ bytes, d'.storage.read l = .ok bytes ↔ d.storage.read l = .ok bytes) ∨
    d'.storage.read l = .ok content

/-- A location holds no file but the one it held, or one with some content. -/
def Settles (d : Disk) (content : ByteArray) (l : Location) (d' : Disk) : Prop :=
  ∀ bytes, d'.storage.read l = .ok bytes → d.storage.read l = .ok bytes ∨ bytes = content

/-- Where the storage is the same, so is every file. -/
theorem Replaces.of_storage (h : d'.storage = d.storage) : d.Replaces content l d' :=
  .inl fun bytes => by rw [h]

/-- A location that no path leads to holds what it held. -/
theorem Replaces.of_keeps (h : d.Keeps paths d') (hl : ∀ path ∈ paths, d'.locate path ≠ .ok l) :
    d.Replaces content l d' :=
  .inl fun _ => h.read_eq_ok hl

/-- A location that twice holds what it held or the content does so in the end. -/
theorem Replaces.trans (h : d.Replaces content l d') (h' : d'.Replaces content l d'') :
    d.Replaces content l d'' := by
  rcases h' with hsame' | hnew
  · rcases h with hsame | hnew
    · exact .inl fun bytes => (hsame' bytes).trans (hsame bytes)
    · exact .inr ((hsame' content).2 hnew)
  · exact .inr hnew

/-- What was there is there still, unless the content is. -/
theorem Replaces.stays (h : d.Replaces content l d') (hold : d.storage.read l = .ok bytes) :
    d'.storage.read l = .ok bytes ∨ d'.storage.read l = .ok content :=
  h.imp (fun hsame => (hsame bytes).2 hold) id

/-- A location that holds the old file or the content holds no third one. -/
theorem Replaces.settles (h : d.Replaces content l d') : d.Settles content l d' := by
  intro bytes hnow
  rcases h with hsame | hnew
  · exact .inl ((hsame bytes).1 hnow)
  · rw [hnew, Except.ok.injEq] at hnow
    exact .inr hnow.symm

/-- A location that comes to hold no third file by either of two steps does not by both. -/
theorem Settles.trans (h : d.Settles content l d') (h' : d'.Settles content l d'') :
    d.Settles content l d'' := by
  intro bytes hnow
  rcases h' bytes hnow with hbetween | hnew
  · exact h bytes hbetween
  · exact .inr hnew

/-! ## What the operations make of a file -/

/-- A file under a new mode reads as before. -/
theorem read_makeExecutable :
    ((Files.makeExecutable path : StateM Disk _).run d).2.storage.read l = .ok bytes ↔
      d.storage.read l = .ok bytes := by
  change ((change path _).run d).2.storage.read l = _ ↔ _
  rcases change_cases d path (·.setMode · Storage.executableMode) with
    hsame | ⟨k, s, -, hset, hstorage⟩
  · rw [hsame]
  rw [hstorage]
  rcases Storage.setMode_eq_ok.1 hset with ⟨-, rfl⟩ | ⟨old, mode, hk, rfl⟩
  · rfl
  have hne := Storage.ne_top_of_get? (s := d.storage) (l := k) (by simp [hk])
  simp only [Storage.read_eq_ok, Storage.get?_put _ hne]
  split
  · next heq => simp [heq, hk]
  · rfl

/-- Making files executable leaves their bytes. -/
theorem bytes?_makeExecutable (h : d.bytes? path = some bytes) :
    ((Files.makeExecutable path : StateM Disk _).run d).2.bytes? path = some bytes := by
  obtain ⟨k, hlocate, hread⟩ := bytes?_eq_some_iff_read.1 h
  exact bytes?_eq_some_iff_read.2
    ⟨k, keeps_makeExecutable.grows.locate hlocate, read_makeExecutable.2 hread⟩

/-- A draft is put somewhere as a whole. -/
theorem replaces_persist {draft : Draft} :
    d.Replaces draft.bytes l ((Files.persist (m := StateM Disk) draft path).run d).2 := by
  rcases change_cases d path (·.install · draft.bytes draft.mode) with
    hsame | ⟨k, s, -, hinstall, hstorage⟩
  · exact .of_storage hsame
  obtain ⟨hfree, rfl⟩ := Storage.install_eq_ok.1 hinstall
  have hne := Storage.ne_top_of_get? hfree
  change d.Replaces draft.bytes l ((change path _).run d).2
  unfold Replaces
  rw [hstorage]
  by_cases heq : l = k
  · exact .inr (Storage.read_eq_ok.2 ⟨draft.mode, by rw [Storage.get?_put _ hne, if_pos heq]⟩)
  · refine .inl fun bytes => ?_
    simp only [Storage.read_eq_ok, Storage.get?_put _ hne, if_neg heq]

/-- Where a file is moved away there is none, and only the place that it is moved to gets a file. -/
theorem settles_move {source target : String}
    (htarget : ((Files.move source target : StateM Disk _).run d).2.locate target ≠ .ok l) :
    d.Settles content l ((Files.move source target : StateM Disk _).run d).2 := by
  intro bytes hnow
  left
  rcases attempt_cases d (fun d => do
    let s ← d.storage.move (← d.locate source) (← d.locate target)
    return ((), s)) with hsame | ⟨_, s, hoperation, -, hstorage⟩
  · rwa [← hsame]
  obtain ⟨k, hk, h⟩ := bind_eq_ok.1 hoperation
  obtain ⟨k', hk', h⟩ := bind_eq_ok.1 h
  obtain ⟨s', hs, hpair⟩ := bind_eq_ok.1 h
  obtain rfl : s' = s := congrArg Prod.snd (Except.ok.inj hpair)
  obtain ⟨old, mode, hold, hinstall⟩ := Storage.move_eq_ok.1 hs
  obtain ⟨hfree, rfl⟩ := Storage.install_eq_ok.1 hinstall
  -- Where the target led before the move, it leads afterwards.
  have hother : l ≠ k' := by
    rintro rfl
    exact htarget (keeps_move.grows.locate hk')
  have hsource : d.storage.get? k ≠ some .directory := by simp [hold]
  change ((attempt _).run d).2.storage.read l = _ at hnow
  rw [hstorage, Storage.read_eq_ok, Storage.get?_put _ (Storage.ne_top_of_get? hfree),
    if_neg hother, Storage.get?_erase _ (Storage.ne_top_of_get? hsource)] at hnow
  split at hnow
  · simp at hnow
  · exact Storage.read_eq_ok.2 hnow

end Disk

namespace Writer

variable {d : Disk} {w : Writer} {path root : String} {artifacts : List Artifact}
  {a : Artifact} {l : Location} {old : ByteArray}

/-! ## Writing one artifact -/

/-- A draft is put in place as a whole or not at all. -/
theorem replaces_finish (draft : Disk.Draft) :
    d.Replaces a.content.toUTF8 l (d.after (finish (m := StateM Disk) draft path a)) := by
  have hfilling : d.Replaces a.content.toUTF8 l (d.after (onFile path "write"
      (Files.fill (m := StateM Disk) draft a.content.toUTF8))) :=
    .of_storage (Disk.storage_fill draft _)
  unfold finish
  refine Disk.after_bind (fun _ _ => hfilling) fun filled hfill => hfilling.trans ?_
  obtain rfl := Disk.eq_of_fill (Disk.outcome_onFile_eq_ok.1 hfill)
  dsimp only
  split
  · refine Disk.after_bind (fun _ _ => .of_storage (Disk.storage_makeDraftExecutable _))
      fun ready hready => ?_
    have hset := Disk.storage_makeDraftExecutable
      (d := d.after (onFile path "write" (Files.fill (m := StateM Disk) draft a.content.toUTF8)))
      { draft with bytes := a.content.toUTF8 }
    obtain rfl := Disk.eq_of_makeDraftExecutable (Disk.outcome_onFile_eq_ok.1 hready)
    exact (Disk.Replaces.of_storage hset).trans Disk.replaces_persist
  · rw [pure_bind]
    exact Disk.replaces_persist

/-- Writing by way of a draft leaves the old file or the new one, wherever it is interrupted. -/
theorem replaces_replace {directory : String} :
    d.Replaces a.content.toUTF8 l (d.after (replace directory path a)) := by
  have hdrafting : d.Replaces a.content.toUTF8 l
      (d.after (onFile directory "create temporary file" (Files.draft directory))) :=
    .of_storage Disk.storage_draft
  unfold replace
  refine Disk.after_bind (fun _ _ => hdrafting) fun draft _ => hdrafting.trans ?_
  generalize d.after (onFile directory "create temporary file" (Files.draft directory)) = d₁
  rw [Disk.after, Disk.run_tryCatch]
  cases d₁.outcome (finish draft path a) with
  | error problem => exact replaces_finish draft
  | ok u => exact replaces_finish draft

/-- So does installing without a backup. -/
theorem replaces_install :
    d.Replaces a.content.toUTF8 l (d.after (install path none a)) := by
  unfold install
  split
  · exact .of_storage rfl
  · have hmaking (directory : String) : d.Replaces a.content.toUTF8 l
        (d.after (onFile directory "create directory" (Files.makeDirectories directory))) :=
      .of_keeps Disk.keeps_makeDirectories (by simp)
    exact Disk.after_bind (fun _ _ => hmaking _) fun _ _ => (hmaking _).trans replaces_replace

/-- With a backup the place may be found empty, but holds no third file. -/
theorem settles_install {target : String}
    (h : (d.after (install path (some target) a)).locate target ≠ .ok l) :
    d.Settles a.content.toUTF8 l (d.after (install path (some target) a)) := by
  unfold install at h ⊢
  split
  · exact (Disk.Replaces.of_storage rfl).settles
  · next directory hparent =>
    simp only [hparent] at h
    have hmaking : d.Replaces a.content.toUTF8 l
        (d.after (onFile directory "create directory" (Files.makeDirectories directory))) :=
      .of_keeps Disk.keeps_makeDirectories (by simp)
    revert h
    refine Disk.after_bind (motive := fun d' => d'.locate target ≠ .ok l → d.Settles _ l d')
      (fun _ _ _ => hmaking.settles) fun _ _ => ?_
    refine Disk.after_bind (motive := fun d' => d'.locate target ≠ .ok l → d.Settles _ l d')
      (fun _ _ h => hmaking.settles.trans (Disk.settles_move h)) fun _ _ h => ?_
    refine hmaking.settles.trans (.trans (Disk.settles_move fun hmoved => ?_)
      replaces_replace.settles)
    exact h (keeps_replace.grows.locate hmoved)

/-- Whatever becomes of the move, what is moved is found where it was or where it goes. -/
theorem saved_install {target : String} (hfile : d.bytes? path = some old)
    (hapart : ∀ d : Disk, d.Apart target path) :
    (d.after (install path (some target) a)).bytes? path = some old ∨
      (d.after (install path (some target) a)).bytes? target = some old := by
  unfold install
  split
  · exact .inl hfile
  · next directory _ =>
    have hmaking : (d.after (onFile directory "create directory"
        (Files.makeDirectories directory))).bytes? path = some old :=
      Disk.keeps_makeDirectories.bytes? hfile (by simp)
    refine Disk.after_bind (motive := fun d' => d'.bytes? path = some old ∨
      d'.bytes? target = some old) (fun _ _ => .inl hmaking) fun _ _ => ?_
    generalize d.after (onFile directory "create directory" (Files.makeDirectories directory)) = d₁
      at hmaking
    refine Disk.after_bind (motive := fun d' => d'.bytes? path = some old ∨
      d'.bytes? target = some old) (fun problem hrefused => .inl ?_) fun _ hmoved => .inr ?_
    · rw [Disk.after_onFile, ← hmaking]
      refine Disk.bytes?_of_storage ?_ Disk.keeps_move.grows.directory_eq
      -- A move that changes the storage is not refused.
      rcases Disk.attempt_cases d₁ _ with hsame | ⟨_, _, -, hok, -⟩
      · exact hsame
      · have hmoved : d₁.outcome (onFile target "create backup" (Files.move path target)) = .ok _ :=
          Disk.outcome_onFile_eq_ok.2 hok
        cases hmoved.symm.trans hrefused
    · obtain ⟨bytes, mode, hsource, htarget⟩ :=
        Disk.get?_of_move (Disk.outcome_onFile_eq_ok.1 hmoved)
      rw [Disk.bytes?_eq_some.2 ⟨mode, hsource⟩, Option.some.injEq] at hmaking
      subst hmaking
      exact keeps_replace.bytes? (Disk.bytes?_eq_some.2 ⟨mode, htarget⟩) (by simpa using hapart _)

/-- A file that cannot be looked for is left alone. -/
theorem after_writeFile_of_error {problem : Problem}
    (h : d.outcome (existing path) = .error problem) :
    d.after (w.writeFile path a) = d.after (existing path) := by
  unfold writeFile
  rw [Disk.after_bind_of_error h]

/-- What the writing of an artifact does after the look for its file. -/
theorem after_writeFile_of_found {found : Option ByteArray}
    (h : d.outcome (existing path) = .ok found) : d.after (w.writeFile path a) =
      if found = some a.content.toUTF8 then
        if a.executable && !w.dryRun then
          ((Files.makeExecutable path : StateM Disk _).run (d.after (existing path))).2
        else d.after (existing path)
      else if w.dryRun then d.after (existing path)
      else (d.after (existing path)).after
        (install path (if found.isSome && w.backup then some (backupPath path) else none) a) := by
  unfold writeFile
  rw [Disk.after_bind_of_ok h]
  dsimp only
  split
  · split
    · exact Disk.after_bind_pure
    · rfl
  · split
    · rfl
    · exact Disk.after_bind_pure

/-- Without backups, a file stays until it is replaced as a whole. -/
theorem replaces_writeFile (hbackup : w.backup = false) :
    d.Replaces a.content.toUTF8 l (d.after (w.writeFile path a)) := by
  have hlook : d.Replaces a.content.toUTF8 l (d.after (existing path)) :=
    .of_keeps keeps_existing (by simp)
  cases hfound : d.outcome (existing path) with
  | error problem => rwa [after_writeFile_of_error hfound]
  | ok found =>
    rw [after_writeFile_of_found hfound, hbackup, Bool.and_false]
    split
    · split
      · exact hlook.trans (.inl fun _ => Disk.read_makeExecutable)
      · exact hlook
    · split
      · exact hlook
      · exact hlook.trans replaces_install

/-- With backups, there may be no file for a while. -/
theorem settles_writeFile (h : (d.after (w.writeFile path a)).locate (backupPath path) ≠ .ok l) :
    d.Settles a.content.toUTF8 l (d.after (w.writeFile path a)) := by
  have hlook : d.Replaces a.content.toUTF8 l (d.after (existing path)) :=
    .of_keeps keeps_existing (by simp)
  cases hfound : d.outcome (existing path) with
  | error problem =>
    rw [after_writeFile_of_error hfound]
    exact hlook.settles
  | ok found =>
    rw [after_writeFile_of_found hfound] at h ⊢
    split
    · split
      · exact (hlook.trans (.inl fun _ => Disk.read_makeExecutable)).settles
      · exact hlook.settles
    · next hdiffers =>
      rw [if_neg hdiffers] at h
      split
      · exact hlook.settles
      · next hrun =>
        rw [if_neg hrun] at h
        cases hmoves : found.isSome && w.backup with
        | false => exact (hlook.trans replaces_install).settles
        | true =>
          rw [hmoves] at h
          exact hlook.settles.trans (settles_install h)

/-- A file that a path leads to is read, unless a fault strikes. -/
theorem read_of_bytes? (h : d.bytes? path = some old) :
    ((Files.read path : StateM Disk _).run d).1 = .ok old ∨
      ∃ e, some e ∈ d.faults ∧ ((Files.read path : StateM Disk _).run d).1 = .error e := by
  obtain ⟨k, hlocate, hread⟩ := Disk.bytes?_eq_some_iff_read.1 h
  change ((Disk.attempt _).run d).1 = _ ∨ ∃ e, _ ∧ ((Disk.attempt _).run d).1 = _
  rw [Disk.attempt, StateT.run]
  unfold Disk.perform
  split
  · next e hfault => exact .inr ⟨e, List.mem_of_mem_head? hfault, rfl⟩
  · left
    simp [hlocate, hread, bind, Except.bind, pure, Except.pure]

/-- Where no fault hides a file, it is found. -/
theorem found_of_bytes? (hfaults : ∀ e, some e ∈ d.faults → e.fault ≠ .notFound)
    (hfile : d.bytes? path = some old) {found : Option ByteArray}
    (h : d.outcome (existing path) = .ok found) : found = some old := by
  rcases outcome_existing_eq_ok.1 h with ⟨bytes, -, rfl⟩ | ⟨⟨text, hmissing⟩, -⟩
  · rw [← bytes?_of_existing h, hfile]
  · rcases read_of_bytes? hfile with hread | ⟨e, hfault, hread⟩
    · cases hread.symm.trans hmissing
    · cases hread.symm.trans hmissing
      exact absurd rfl (hfaults _ hfault)

/-- With backups, what a path leads to is found there in the end, or where it was moved to. -/
theorem saved_writeFile (hbackup : w.backup = true)
    (hfaults : ∀ e, some e ∈ d.faults → e.fault ≠ .notFound) (hfile : d.bytes? path = some old)
    (hapart : ∀ d : Disk, d.Apart (backupPath path) path) :
    (d.after (w.writeFile path a)).bytes? path = some old ∨
      (d.after (w.writeFile path a)).bytes? (backupPath path) = some old := by
  have hlook : (d.after (existing path)).bytes? path = some old :=
    keeps_existing.bytes? hfile (by simp)
  cases hfound : d.outcome (existing path) with
  | error problem =>
    rw [after_writeFile_of_error hfound]
    exact .inl hlook
  | ok found =>
    obtain rfl := found_of_bytes? hfaults hfile hfound
    rw [after_writeFile_of_found hfound, hbackup, Option.isSome_some, Bool.and_true, if_pos rfl]
    split
    · split
      · exact .inl (Disk.bytes?_makeExecutable hlook)
      · exact .inl hlook
    · split
      · exact .inl hlook
      · exact saved_install hlook hapart

/-! ## Writing one artifact after the other -/

/-- What each file that is written does to a disk, the writing of a list does. What a path leads to
may be told from what it leads to later. -/
theorem writeAll_induction {motive : Disk → Disk → Prop} {later : Disk} (refl : ∀ d, motive d d)
    (trans : ∀ {d d' d''}, motive d d' → motive d' d'' → motive d d'')
    (step : ∀ d, ∀ b ∈ artifacts, (d.after (w.writeFile (Path.join root b.path) b)).Grows later →
      motive d (d.after (w.writeFile (Path.join root b.path) b)))
    (hlater : (d.after (w.writeAll root artifacts)).Grows later) :
    motive d (d.after (w.writeAll root artifacts)) := by
  induction artifacts using List.reverseRecOn with
  | nil => exact refl d
  | append_singleton artifacts c ih =>
    have hearlier := ih (fun d b hb => step d b (List.mem_append_left _ hb))
      (grows_writeAll_concat.trans hlater)
    rw [after_writeAll_concat] at hlater ⊢
    split
    · next hok =>
      rw [if_pos hok] at hlater
      refine trans hearlier ?_
      rcases after_writeBelow (d.after (w.writeAll root artifacts)) w root c with hlast | ⟨-, hlast⟩
      · rw [hlast]
        exact refl _
      · rw [hlast] at hlater ⊢
        exact step _ c (by simp) hlater
    · exact hearlier

variable {later : Disk} {b : Artifact}

/-- An artifact does not touch what stands where a path leads that is neither its own nor that of
its backup. -/
theorem ne_locate_of_apart (ha : Path.IsPlain a.path) (hb : Path.IsPlain b.path)
    (hpath : b.path ≠ a.path) (hfree : a.path ≠ b.path ++ ".bak")
    (hl : later.locate (Path.join root a.path) = .ok l)
    (hlater : (d.after (w.writeFile (Path.join root b.path) b)).Grows later) :
    ∀ q ∈ Path.join root b.path :: (w.backup? d (Path.join root b.path) b).toList,
      (d.after (w.writeFile (Path.join root b.path) b)).locate q ≠ .ok l := by
  intro q hq hlocate
  exact apart_written ha hb hpath.symm (fun _ => hfree.symm) q hq later l hl (hlater.locate hlocate)

/-- Without backups, a list replaces the file of an artifact or leaves it. -/
theorem replaces_writeAll (hbackup : w.backup = false)
    (hplain : ∀ b ∈ artifacts, Path.IsPlain b.path) (hnodup : (artifacts.map (·.path)).Nodup)
    (hfree : ∀ b ∈ artifacts, a.path ≠ b.path ++ ".bak") (ha : a ∈ artifacts)
    (hl : (d.after (w.writeAll root artifacts)).locate (Path.join root a.path) = .ok l) :
    d.Replaces a.content.toUTF8 l (d.after (w.writeAll root artifacts)) := by
  refine writeAll_induction (motive := fun d d' => d.Replaces a.content.toUTF8 l d')
    (fun _ => .of_storage rfl) .trans (fun d b hb hlater => ?_) ⟨rfl, fun _ h => h⟩
  by_cases hpath : b.path = a.path
  · obtain rfl := List.inj_on_of_nodup_map hnodup hb ha hpath
    exact replaces_writeFile hbackup
  · exact .of_keeps keeps_writeFile
      (ne_locate_of_apart (hplain a ha) (hplain b hb) hpath (hfree b hb) hl hlater)

/-- Whatever the writer does, a list puts nothing else in the place of an artifact. -/
theorem settles_writeAll (hplain : ∀ b ∈ artifacts, Path.IsPlain b.path)
    (hnodup : (artifacts.map (·.path)).Nodup)
    (hfree : ∀ b ∈ artifacts, a.path ≠ b.path ++ ".bak") (ha : a ∈ artifacts)
    (hl : (d.after (w.writeAll root artifacts)).locate (Path.join root a.path) = .ok l) :
    d.Settles a.content.toUTF8 l (d.after (w.writeAll root artifacts)) := by
  refine writeAll_induction (motive := fun d d' => d.Settles a.content.toUTF8 l d')
    (fun _ _ h => .inl h) .trans (fun d b hb hlater => ?_) ⟨rfl, fun _ h => h⟩
  by_cases hpath : b.path = a.path
  · obtain rfl := List.inj_on_of_nodup_map hnodup hb ha hpath
    refine settles_writeFile fun hlocate => ?_
    rw [Path.backupPath_join (hplain b hb)] at hlocate
    exact Disk.apart_join (hplain b hb) (hplain b hb).backup (Path.ne_backup b.path) _ l hl
      (hlater.locate hlocate)
  · exact (Disk.Replaces.of_keeps keeps_writeFile
      (ne_locate_of_apart (hplain a ha) (hplain b hb) hpath (hfree b hb) hl hlater)).settles

/-- With backups, what the path of an artifact leads to is found there after a list, or where it was
moved to. The others come before the artifact and leave its file, or after it and leave both. -/
theorem saved_writeAll (hbackup : w.backup = true)
    (hfaults : ∀ e, some e ∈ d.faults → e.fault ≠ .notFound)
    (hplain : ∀ b ∈ artifacts, Path.IsPlain b.path) (hnodup : (artifacts.map (·.path)).Nodup)
    (hfree : ∀ b ∈ artifacts, ∀ c ∈ artifacts, c.path ≠ b.path ++ ".bak") (ha : a ∈ artifacts)
    (hfile : d.bytes? (Path.join root a.path) = some old) :
    (d.after (w.writeAll root artifacts)).bytes? (Path.join root a.path) = some old ∨
      (d.after (w.writeAll root artifacts)).bytes? (backupPath (Path.join root a.path)) =
        some old := by
  induction artifacts using List.reverseRecOn with
  | nil => simp at ha
  | append_singleton artifacts c ih =>
    rw [List.map_append, List.map_singleton, List.nodup_append] at hnodup
    have hearlier : ∀ b ∈ artifacts, b ∈ artifacts ++ [c] := fun b => List.mem_append_left _
    have hc : c ∈ artifacts ++ [c] := by simp
    have hap := hplain a ha
    have hpath : ∀ b ∈ artifacts, b.path ≠ c.path :=
      fun b hb => hnodup.2.2 _ (List.mem_map_of_mem hb) _ (by simp)
    have hsuffix : (d.after (w.writeAll root artifacts)).faults <:+ d.faults :=
      keeps_writeAll.faults
    rw [after_writeAll_concat]
    rcases List.mem_append.1 ha with hmem | hmem
    · -- The last one touches neither the file of the artifact nor its backup.
      have hkept := ih (fun b hb => hplain b (hearlier b hb)) hnodup.1
        (fun b hb e he => hfree b (hearlier b hb) e (hearlier e he)) hmem
      split
      · refine hkept.imp (fun hstill => ?_) fun hmoved => ?_
        · exact keeps_writeBelow.bytes? hstill fun q hq =>
            apart_written hap (hplain c hc) (hpath a hmem) (fun _ => (hfree c hc a ha).symm) q hq _
        · rw [Path.backupPath_join hap] at hmoved ⊢
          refine keeps_writeBelow.bytes? hmoved fun q hq =>
            apart_written hap.backup (hplain c hc) (hfree a ha c hc).symm (fun _ heq => ?_) q hq _
          exact hpath a hmem (String.append_left_inj _ |>.1 heq).symm
      · exact hkept
    · -- The artifact is the last one, and those before it have left its file.
      obtain rfl := List.mem_singleton.1 hmem
      have hstill : (d.after (w.writeAll root artifacts)).bytes? (Path.join root a.path) =
          some old := by
        refine keeps_writeAll.bytes? hfile fun q hq => ?_
        obtain ⟨b, hb, rfl | rfl⟩ := mem_concerned.1 hq
        · exact Disk.apart_join hap (hplain b (hearlier b hb)) (hpath b hb).symm _
        · rw [Path.backupPath_join (hplain b (hearlier b hb))]
          exact Disk.apart_join hap (hplain b (hearlier b hb)).backup
            (hfree b (hearlier b hb) a ha) _
      split
      · rcases after_writeBelow (d.after (w.writeAll root artifacts)) w root a with
          hlast | ⟨-, hlast⟩
        · rw [hlast]
          exact .inl hstill
        · rw [hlast]
          refine saved_writeFile hbackup (fun e he => hfaults e (hsuffix.subset he)) hstill
            fun d' => ?_
          rw [Path.backupPath_join hap]
          exact Disk.apart_join hap.backup hap (Path.ne_backup a.path).symm d'
      · exact .inl hstill

/-- **No content is lost when writing fails midway**, whichever operations are refused. Where an
artifact belongs there is nothing but what was there before or all of its content. Without backups a
file that was there is there with one of the two. With backups what its path led to from the start
is found there, or at the path of the backup, unless the disk says of a file that there is none. -/
theorem writeAll_loses_nothing (d : Disk) (w : Writer) (root : String) (artifacts : List Artifact)
    (hvalid : ∀ a ∈ artifacts, validatePath a.path = .ok ())
    (hnodup : (artifacts.map (·.path)).Nodup)
    (hfree : ∀ a ∈ artifacts, ∀ b ∈ artifacts, b.path ≠ a.path ++ ".bak") :
    let d' := d.after (w.writeAll root artifacts)
    ∀ a ∈ artifacts, ∀ l, d'.locate (Path.join root a.path) = .ok l →
      (∀ bytes, d'.storage.read l = .ok bytes →
        d.storage.read l = .ok bytes ∨ bytes = a.content.toUTF8) ∧
      (w.backup = false → ∀ old, d.storage.read l = .ok old →
        d'.storage.read l = .ok old ∨ d'.storage.read l = .ok a.content.toUTF8) ∧
      (w.backup = true → (∀ e, some e ∈ d.faults → e.fault ≠ .notFound) →
        d.locate (Path.join root a.path) = .ok l → ∀ old, d.storage.read l = .ok old →
          d'.storage.read l = .ok old ∨
            d'.bytes? (backupPath (Path.join root a.path)) = some old) := by
  intro d' a ha l hl
  have hplain : ∀ b ∈ artifacts, Path.IsPlain b.path :=
    fun b hb => Path.isPlain_of_validatePath (hvalid b hb)
  refine ⟨?_, fun hbackup old hold => ?_, fun hbackup hfaults hfound old hold => ?_⟩
  · exact settles_writeAll hplain hnodup (fun b hb => hfree b hb a ha) ha hl
  · exact (replaces_writeAll hbackup hplain hnodup (fun b hb => hfree b hb a ha) ha hl).stays hold
  · refine (saved_writeAll hbackup hfaults hplain hnodup hfree ha
      (Disk.bytes?_eq_some_iff_read.2 ⟨l, hfound, hold⟩)).imp_left fun hstill => ?_
    obtain ⟨k, hk, hread⟩ := Disk.bytes?_eq_some_iff_read.1 hstill
    rw [hl, Except.ok.injEq] at hk
    rwa [hk]

/-- A disk on which the sixth operation is refused, and the two before it are not. -/
def refusing : Disk :=
  { released with faults := [none, none, none, none, none, some ⟨.other, "No space left"⟩] }

/-- The older version is moved away, then the new one cannot be put in its place. -/
theorem writeAll_loses_nothing_refusing :
    (refusing.outcome (writeAll ⟨true, false⟩ "out" revised)).toBool = false ∧
      (refusing.after (writeAll ⟨true, false⟩ "out" revised)).get? "out/tool" = none ∧
      (refusing.after (writeAll ⟨true, false⟩ "out" revised)).bytes?
        (backupPath (Path.join "out" "tool")) = some "old".toUTF8 := by
  have hgone : (refusing.after (writeAll ⟨true, false⟩ "out" revised)).get? "out/tool" = none := by
    decide +kernel
  have hfile : refusing.bytes? (Path.join "out" "tool") = some "old".toUTF8 := by decide +kernel
  have hvalid : ∀ a ∈ revised, validatePath a.path = .ok () := by
    have hpasses : ∀ a ∈ revised, (validatePath a.path).toOption = some () := by decide +kernel
    exact fun a ha => Outcome.toOption_eq_some.1 (hpasses a ha)
  obtain ⟨l, hfound, hread⟩ := Disk.bytes?_eq_some_iff_read.1 hfile
  have hlater : (refusing.after (writeAll ⟨true, false⟩ "out" revised)).locate
      (Path.join "out" "tool") = .ok l := keeps_writeAll.grows.locate hfound
  obtain ⟨-, -, hsaved⟩ := writeAll_loses_nothing refusing ⟨true, false⟩ "out" revised hvalid
    (by decide) (by decide) _ List.mem_cons_self l hlater
  have hfaults : ∀ e, some e ∈ refusing.faults → e.fault ≠ .notFound := by
    simp [refusing]
  refine ⟨by decide +kernel, hgone, ?_⟩
  rcases hsaved rfl hfaults hfound _ hread with hstill | hmoved
  · obtain ⟨mode, hstill⟩ := Storage.read_eq_ok.1 hstill
    have hthere := (Disk.get?_of_locate hlater).trans hstill
    cases hgone.symm.trans hthere
  · exact hmoved

/-- A disk with an older version of a file, and a directory where another artifact belongs. -/
def blocked : Disk :=
  ⟨[(["out"], .directory), (["out", "tool"], .file "old".toUTF8 Storage.plainMode),
    (["out", "setup"], .directory)], [], []⟩

/-- Where the directory is written with a step back from one that is missing, the older version is
taken for absent. It is replaced without a backup, and its bytes are lost when the writing fails at
the next artifact. -/
theorem lost_behind_missing :
    (∀ a ∈ revised, (validatePath a.path).toBool = true) ∧ (revised.map (·.path)).Nodup ∧
    (∀ a ∈ revised, ∀ b ∈ revised, b.path ≠ a.path ++ ".bak") ∧
    blocked.get? "out/tool" = some (.file "old".toUTF8 Storage.plainMode) ∧
    (blocked.outcome (writeAll ⟨true, false⟩ "gone/../out" revised)).toBool = false ∧
    (blocked.after (writeAll ⟨true, false⟩ "gone/../out" revised)).bytes? "gone/../out/tool" =
      some "new".toUTF8 ∧
    (blocked.after (writeAll ⟨true, false⟩ "gone/../out" revised)).bytes?
      (backupPath "gone/../out/tool") = none := by
  refine ⟨by decide +kernel, by decide, by decide, ?_, ?_, ?_, ?_⟩ <;> decide +kernel

end Writer

end CliGen
