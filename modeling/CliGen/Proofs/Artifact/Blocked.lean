import CliGen.Proofs.Artifact.Batches
import CliGen.Proofs.Storage.Beside

/-!
# Directories that nothing can be written below

Where a file or a name that is too long is in the way, no path below a directory leads anywhere
(`Disk.Blocked`), and writing below it leaves the disk as it is
(`Writer.after_writeAll_of_blocked`). Else what is missing along the path can be made, unless there
are steps back to parent directories or names that are too long behind it
(`Disk.reachable_or_blocked_or_broken`).
-/

namespace CliGen

namespace Disk

variable {d : Disk} {root p : String}

/-- The path of a directory leads to a directory that exists, and from there along steps that can be
made to lead on. -/
def Reachable (d : Disk) (root : String) : Prop :=
  ∃ known ahead place, Path.stepsTo root = known ++ ahead ∧
    d.storage.follow (Storage.start d.directory root) known = .ok place ∧
    d.storage.get? place = some .directory ∧ Storage.CanLead ahead

/-- The path of a directory leads nowhere, and not because something is missing along it. -/
def Blocked (d : Disk) (root : String) : Prop :=
  '\x00' ∈ root.toList ∨ ∃ e, d.storage.follow (Storage.start d.directory root)
    (Path.stepsTo root) = .error e ∧ e.fault ≠ .notFound

/-- Behind a directory that is missing along a path there are steps that cannot be made to lead
on. -/
def Broken (d : Disk) (root : String) : Prop :=
  ∃ known step ahead place, Path.stepsTo root = known ++ step :: ahead ∧
    d.storage.follow (Storage.start d.directory root) known = .ok place ∧
    d.storage.get? place = some .directory ∧ Path.IsName step ∧
    d.storage.get? (place ++ [step]) = none ∧ ¬ Storage.CanLead ahead

/-- No path below a directory leads further than the directory. -/
theorem Blocked.join (h : d.Blocked root) (hp : Path.IsPlain p) : d.Blocked (Path.join root p) := by
  rcases h with hzero | ⟨e, hfollow, he⟩
  · left
    rw [Path.join_of_plain hp]
    split <;> simp [hzero]
  · right
    refine ⟨e, ?_, he⟩
    rw [Path.stepsTo_join hp, Storage.start, Path.isAbsolute_join hp]
    exact Storage.follow_append_of_error hfollow _

/-- A path below a directory leads nowhere either. -/
theorem Blocked.locate_join (h : d.Blocked root) (hp : Path.IsPlain p) :
    ∃ e, d.locate (Path.join root p) = .error e ∧ e.fault ≠ .notFound := by
  rw [locate, Storage.locate, if_neg (by simpa using Path.join_ne_empty hp root)]
  split
  next => exact ⟨_, rfl, by decide⟩
  next hzero =>
    rcases h with hroot | ⟨e, hfollow, he⟩
    · refine absurd ?_ hzero
      rw [Path.join_of_plain hp]
      split <;> simp [hroot]
    · rw [Path.steps_join hp, Storage.start, Path.isAbsolute_join hp]
      exact ⟨e, Storage.follow_append_of_error hfollow _, he⟩

end Disk

namespace Storage

variable {s : Storage} {l : Location} {step : String} {steps : List String}

/-- A step from a directory leads to a directory, unless it is a name. -/
private theorem isName_of_enter (hrooted : s.Rooted) (hl : s.get? l = some .directory)
    (h : s.get? (enter l step) ≠ some .directory) : Path.IsName step := by
  rw [enter] at h
  refine ⟨Bool.eq_false_iff.2 fun hidle => h (by rwa [if_pos hidle]), fun hup => h ?_⟩
  rw [if_neg (by rw [hup]; decide), if_pos hup]
  exact hrooted l (by rw [hl]; exact Option.some_ne_none _)

/-- Following steps from a directory ends in one of three ways. -/
private theorem follow_cases (hrooted : s.Rooted) (hl : s.get? l = some .directory) :
    (∃ known ahead place, steps = known ++ ahead ∧ s.follow l known = .ok place ∧
      s.get? place = some .directory ∧ CanLead ahead) ∨
    (∃ e, s.follow l steps = .error e ∧ e.fault ≠ .notFound) ∨
    ∃ known step ahead place, steps = known ++ step :: ahead ∧ s.follow l known = .ok place ∧
      s.get? place = some .directory ∧ Path.IsName step ∧ s.get? (place ++ [step]) = none ∧
      ¬ CanLead ahead := by
  induction steps generalizing l with
  | nil => exact .inl ⟨[], [], l, rfl, rfl, hl, by simp [CanLead]⟩
  | cons step rest ih =>
    by_cases hlong : Path.IsName step ∧ longestName < step.utf8ByteSize
    · exact .inr (.inl ⟨_, follow_cons_of_long hl hlong.1 hlong.2 rest, by decide⟩)
    have hshort : Path.IsName step → step.utf8ByteSize ≤ longestName := fun hname =>
      Nat.le_of_not_lt fun h => hlong ⟨hname, h⟩
    have hone (steps : List String) := follow_cons_of_directory hl hshort steps
    have hcan (h : Path.IsName step) : step ≠ ".." ∧ step.utf8ByteSize ≤ longestName :=
      ⟨h.2, hshort h⟩
    cases henter : s.get? (enter l step) with
    | none =>
      have hname := isName_of_enter hrooted hl (by rw [henter]; exact nofun)
      by_cases hrest : CanLead rest
      · exact .inl ⟨[], step :: rest, l, rfl, rfl, hl, List.forall_mem_cons.2 ⟨hcan hname, hrest⟩⟩
      · rw [enter_of_isName hname] at henter
        exact .inr (.inr ⟨[], step, rest, l, rfl, rfl, hl, hname, henter, hrest⟩)
    | some entry =>
      cases entry with
      | file bytes mode =>
        have hname := isName_of_enter hrooted hl (by rw [henter]; exact nofun)
        cases rest with
        | nil =>
          exact .inl ⟨[], [step], l, rfl, rfl, hl, List.forall_mem_singleton.2 (hcan hname)⟩
        | cons next rest =>
          refine .inr (.inl ⟨.notADirectory, ?_, by decide⟩)
          rw [hone, follow, henter]
      | directory =>
        -- What comes of the other steps comes of all of them.
        rcases ih henter with ⟨known, ahead, place, rfl, hknown, hplace⟩ | ⟨e, hfollow, he⟩ |
            ⟨known, missing, ahead, place, rfl, hknown, hplace⟩
        · exact .inl ⟨step :: known, ahead, place, rfl, by rw [hone, hknown], hplace⟩
        · exact .inr (.inl ⟨e, by rw [hone, hfollow], he⟩)
        · exact .inr (.inr ⟨step :: known, missing, ahead, place, rfl, by rw [hone, hknown],
            hplace⟩)

end Storage

/-- Wherever the path of a directory leads, paths below it can be made, or they lead nowhere for
good, or steps that cannot be made to lead on stand behind a directory that is missing. -/
theorem Disk.reachable_or_blocked_or_broken {d : Disk} (hd : d.Sound) (root : String) :
    d.Reachable root ∨ d.Blocked root ∨ d.Broken root := by
  have hstart : d.storage.get? (Storage.start d.directory root) = some .directory := by
    rw [Storage.start]
    split
    · exact Storage.get?_top _
    · exact hd.directory
  exact (Storage.follow_cases hd.rooted hstart).imp_right (.imp_left .inr)

/-! ## Writing -/

namespace Writer

variable {d : Disk} {w : Writer} {root path : String} {artifacts : List Artifact} {a : Artifact}

/-- Where it cannot be told what stands at a path, nothing is written. -/
theorem after_writeFile_of_locate (hfaults : d.faults = []) {e : SystemError}
    (hlocate : d.locate path = .error e) (he : e.fault ≠ .notFound) :
    d.after (w.writeFile path a) = d := by
  obtain ⟨problem, hproblem⟩ : ∃ problem, d.outcome (existing path) = .error problem := by
    cases hfound : d.outcome (existing path) with
    | error problem => exact ⟨problem, rfl⟩
    | ok found =>
      rw [outcome_existing_eq_ok, Disk.run_read hfaults, hlocate] at hfound
      rcases hfound with ⟨bytes, hread, -⟩ | ⟨⟨text, hread⟩, -⟩
      · cases hread
      · cases hread
        exact absurd rfl he
  rw [writeFile, Disk.after_bind_of_error hproblem, after_existing_of_faults hfaults]

/-- **Where nothing can be written, nothing changes.** -/
theorem after_writeAll_of_blocked (hfaults : d.faults = []) (h : d.Blocked root) :
    d.after (w.writeAll root artifacts) = d := by
  induction artifacts using List.reverseRecOn with
  | nil => rfl
  | append_singleton artifacts a ih =>
    rw [after_writeAll_concat, ih]
    split
    · rcases after_writeBelow d w root a with hlast | ⟨hvalid, hlast⟩
      · exact hlast
      · obtain ⟨e, hlocate, he⟩ := h.locate_join (Path.isPlain_of_validatePath hvalid)
        rw [hlast, after_writeFile_of_locate hfaults hlocate he]
    · rfl

end Writer

end CliGen
