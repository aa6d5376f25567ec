import CliGen.Proofs.Artifact.Batches

/-!
# What stands where artifacts were written

After a list of artifacts is written, each stands at its path, except where the backup of a file
that was written over later took its place (`Writer.Overlays`). Such a backup is made of an artifact
behind it in the list, whose path is the same without `.bak`.
-/

namespace CliGen.Writer

variable {d : Disk} {w : Writer} {root : String} {artifacts : List Artifact} {a b c : Artifact}
  {report : WriteReport} {bytes : ByteArray} {mode : Nat}

/-- A file with other content than an artifact stood at the path of the artifact when it came to be
written, and is moved to the path of an artifact that is written before. -/
def Overlays (w : Writer) (d : Disk) (root : String) (artifacts : List Artifact) (a : Artifact)
    (bytes : ByteArray) (mode : Nat) : Prop :=
  ∃ before b after, artifacts = before ++ b :: after ∧ a ∈ before ∧ b.path ++ ".bak" = a.path ∧
    w.backup = true ∧ bytes ≠ b.content.toUTF8 ∧
    (d.after (w.writeAll root before)).get? (Path.join root b.path) = some (.file bytes mode)

/-- An artifact in a list with one more is that one, or stands before it. -/
theorem split_of_concat {before after : List Artifact}
    (h : artifacts ++ [c] = before ++ b :: after) :
    (artifacts = before ∧ c = b) ∨ ∃ rest, artifacts = before ++ b :: rest := by
  rcases List.eq_nil_or_concat after with rfl | ⟨rest, e, rfl⟩
  · obtain ⟨hbefore, hlast⟩ := List.append_inj' h rfl
    exact .inl ⟨hbefore, List.singleton_inj.1 hlast⟩
  · rw [List.concat_eq_append, ← List.cons_append, ← List.append_assoc] at h
    exact .inr ⟨rest, (List.append_inj' h rfl).1⟩

/-- A backup is in the way in a list with one more if it was before, or if that one makes it. -/
theorem overlays_concat : w.Overlays d root (artifacts ++ [c]) a bytes mode ↔
    w.Overlays d root artifacts a bytes mode ∨
      a ∈ artifacts ∧ c.path ++ ".bak" = a.path ∧ w.backup = true ∧ bytes ≠ c.content.toUTF8 ∧
        (d.after (w.writeAll root artifacts)).get? (Path.join root c.path) =
          some (.file bytes mode) := by
  constructor
  · rintro ⟨before, b, after, hsplit, hmem, hrest⟩
    rcases split_of_concat hsplit with ⟨rfl, rfl⟩ | ⟨rest, rfl⟩
    · exact .inr ⟨hmem, hrest⟩
    · exact .inl ⟨before, b, rest, rfl, hmem, hrest⟩
  · rintro (⟨before, b, after, rfl, hmem, hrest⟩ | ⟨hmem, hrest⟩)
    · exact ⟨before, b, after ++ [c], by simp, hmem, hrest⟩
    · exact ⟨artifacts, c, [], rfl, hmem, hrest⟩

/-- A backup is in the way only of an artifact whose path is that of another one's backup. -/
theorem Overlays.exists_mem (h : w.Overlays d root artifacts a bytes mode) :
    a ∈ artifacts ∧ ∃ b ∈ artifacts, b.path ++ ".bak" = a.path := by
  obtain ⟨before, b, after, rfl, hmem, hpath, -⟩ := h
  exact ⟨List.mem_append_left _ hmem, b, by simp, hpath⟩

/-- After a list is written, what overlays an artifact stands at its path, or else the artifact. -/
theorem overlaid_or_holds (hrun : w.dryRun = false) (hfaults : d.faults = [])
    (hnodup : (artifacts.map (·.path)).Nodup)
    (h : d.outcome (w.writeAll root artifacts) = .ok report) (ha : a ∈ artifacts) :
    (∀ bytes mode, w.Overlays d root artifacts a bytes mode →
      (d.after (w.writeAll root artifacts)).get? (Path.join root a.path) =
        some (.file bytes mode)) ∧
    ((∀ bytes mode, ¬ w.Overlays d root artifacts a bytes mode) →
      (d.after (w.writeAll root artifacts)).Holds (Path.join root a.path) a) := by
  induction artifacts using List.reverseRecOn generalizing report with
  | nil => cases ha
  | append_singleton artifacts c ih =>
    have hplain := isPlain_of_writeAll h
    have hc : Path.IsPlain c.path := hplain c (by simp)
    obtain ⟨earlier, o, hearlier, -, hwrite, hafter, -⟩ := exists_of_writeAll_concat h
    rw [List.map_append, List.map_singleton, List.nodup_append] at hnodup
    obtain ⟨hnodup, -, hfresh⟩ := hnodup
    have hnew : ∀ b ∈ artifacts, b.path ≠ c.path :=
      fun b hb => hfresh _ (List.mem_map_of_mem hb) _ (by simp)
    have hfaults' : (d.after (w.writeAll root artifacts)).faults = [] := faults_writeAll hfaults
    rw [hafter]
    rcases List.mem_append.1 ha with hmem | hmem
    · -- The artifact was written before the last one.
      obtain ⟨hover, hholds⟩ := ih hnodup hearlier hmem
      have hap := hplain a ha
      constructor
      · -- It was overlaid before, or the backup of the last one overlays it now.
        intro bytes mode hoverlays
        rcases overlays_concat.1 hoverlays with hold | ⟨-, hpath, hbackup, hdiffers, hfile⟩
        · obtain ⟨-, b, hb, hbak⟩ := hold.exists_mem
          refine keeps_writeFile.get?_file (hover bytes mode hold) fun q hq =>
            apart_written hap hc (hnew a hmem) (fun _ heq => ?_) q hq _
          rw [← hbak] at heq
          exact hnew b hb (String.append_left_inj _ |>.1 heq).symm
        · have hmoved := get?_of_writeFile hrun hfaults' hwrite hfile hdiffers hbackup fun d' => by
            rw [Path.backupPath_join hc]
            exact Disk.apart_join hc.backup hc (Path.ne_backup c.path).symm d'
          rwa [Path.backupPath_join hc, hpath] at hmoved
      · intro hnone
        have hearly := hholds fun bytes mode hold =>
          hnone bytes mode (overlays_concat.2 (.inl hold))
        refine hearly.of_keeps keeps_writeFile fun q hq =>
          apart_written hap hc (hnew a hmem) (fun hsome heq => ?_) q hq _
        obtain ⟨target, htarget⟩ := Option.isSome_iff_exists.1 hsome
        obtain ⟨bytes, mode, hfile, hdiffers, hbackup, -⟩ := backup?_eq_some.1 htarget
        exact hnone bytes mode (overlays_concat.2 (.inr ⟨hmem, heq, hbackup, hdiffers, hfile⟩))
    · -- The artifact is the last one, so nothing is written over.
      rw [List.mem_singleton] at hmem
      subst hmem
      refine ⟨fun bytes mode hoverlays => ?_, fun _ => holds_writeFile hrun hfaults' hwrite⟩
      have hmem : a ∈ artifacts := by
        rcases overlays_concat.1 hoverlays with hold | ⟨hmem, -⟩
        · exact hold.exists_mem.1
        · exact hmem
      exact absurd rfl (hnew a hmem)

/-- **An artifact that was written stands at its path, with its content and the right to run it, if
and only if whatever overlays it is the same.** -/
theorem holds_writeAll_iff (hrun : w.dryRun = false) (hfaults : d.faults = [])
    (hnodup : (artifacts.map (·.path)).Nodup)
    (h : d.outcome (w.writeAll root artifacts) = .ok report) (ha : a ∈ artifacts) :
    (d.after (w.writeAll root artifacts)).Holds (Path.join root a.path) a ↔
      ∀ bytes mode, w.Overlays d root artifacts a bytes mode →
        bytes = a.content.toUTF8 ∧ (a.executable = true → mode = Storage.executableMode) := by
  obtain ⟨hover, hholds⟩ := overlaid_or_holds hrun hfaults hnodup h ha
  constructor
  · rintro ⟨mode, hfile, hmode⟩ bytes mode' hoverlays
    rw [hover bytes mode' hoverlays, Option.some.injEq, Entry.file.injEq] at hfile
    exact ⟨hfile.1, fun hexecutable => hfile.2.trans (hmode hexecutable)⟩
  · intro hsame
    by_cases hany : ∃ bytes mode, w.Overlays d root artifacts a bytes mode
    · obtain ⟨bytes, mode, hoverlays⟩ := hany
      obtain ⟨hbytes, hmode⟩ := hsame bytes mode hoverlays
      exact ⟨mode, by rw [hover bytes mode hoverlays, hbytes], hmode⟩
    · exact hholds fun bytes mode hoverlays => hany ⟨bytes, mode, hoverlays⟩

/-- Two artifacts, the first of which is written where the backup of the second goes. -/
def clashing : List Artifact :=
  [.make "tool.bak" "saved" .entryPoint "entry", .make "tool" "new" .bootstrap "bootstrap"]

/-- A disk with one file, where the second of the clashing artifacts is written. -/
def occupied (content : String) : Disk :=
  ⟨[(["tool"], .file content.toUTF8 Storage.plainMode)], [], []⟩

/-- Without backups nothing overlays an artifact. -/
theorem holds_writeAll_iff_clashing :
    (∃ report, (occupied "old").outcome (writeAll ⟨false, false⟩ "" clashing) = .ok report) ∧
      ((occupied "old").after (writeAll ⟨false, false⟩ "" clashing)).Holds
        (Path.join "" "tool.bak") (.make "tool.bak" "saved" .entryPoint "entry") := by
  have hwritten : ((occupied "old").outcome (writeAll ⟨false, false⟩ "" clashing)).toBool = true :=
    by decide +kernel
  obtain ⟨report, hok⟩ := Outcome.toBool_eq_true.1 hwritten
  have hmem : Artifact.make "tool.bak" "saved" .entryPoint "entry" ∈ clashing :=
    List.mem_cons_self
  refine ⟨⟨report, hok⟩, (holds_writeAll_iff rfl rfl (by decide) hok hmem).2 ?_⟩
  rintro bytes mode ⟨before, b, after, -, -, -, hbackup, -⟩
  exact absurd hbackup Bool.false_ne_true

/-- The backup of the second artifact takes the place of the first, though both are written and are
among what may be written together. -/
theorem not_holds_clashing :
    (∃ stamped, Artifact.assemble "tool" clashing = .ok stamped) ∧
    (∃ report, (occupied "old").outcome (writeAll ⟨true, false⟩ "" clashing) = .ok report) ∧
      ¬ ((occupied "old").after (writeAll ⟨true, false⟩ "" clashing)).Holds "tool.bak"
        (.make "tool.bak" "saved" .entryPoint "entry") := by
  have hstamped : (Artifact.assemble "tool" clashing).toBool = true := by decide +kernel
  have hreport : ((occupied "old").outcome (writeAll ⟨true, false⟩ "" clashing)).toBool = true := by
    decide +kernel
  refine ⟨Outcome.toBool_eq_true.1 hstamped, Outcome.toBool_eq_true.1 hreport, ?_⟩
  rintro ⟨mode, hfile, -⟩
  have hbytes : ((occupied "old").after (writeAll ⟨true, false⟩ "" clashing)).bytes? "tool.bak" =
      some "old".toUTF8 := by decide +kernel
  rw [Disk.bytes?, hfile, Option.some.injEq] at hbytes
  exact absurd hbytes (by decide +kernel)

end CliGen.Writer
