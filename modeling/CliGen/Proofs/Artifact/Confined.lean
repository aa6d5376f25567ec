import CliGen.Proofs.Artifact.Batches
import CliGen.Proofs.Storage.Confined

/-!
# Writing is confined to a directory

What becomes of artifacts that are written below a directory depends on nothing but what stands
there, and nothing else changes (`Trail.confines_writeAll`).
-/

namespace CliGen.Trail

variable {t : Trail} {w : Writer} {a : Artifact} {artifacts : List Artifact} {q parent : String}
  {front : List String}

/-- Every path has a step. -/
theorem splitAt_ne_nil (q : String) : Text.splitAt '/' q ≠ [] := by
  simp [Text.splitAt, Text.pieces_ne_nil]

/-- Naming the file of an operation leaves it confined. -/
theorem confines_onFile {α : Type} {path operation : String}
    {step : StateM Disk (Except SystemError α)} (h : t.Confines step) :
    t.Confines (onFile path operation step).run := by
  rw [onFile, ExceptT.run_mk]
  exact confines_bind h fun _ => confines_pure _

/-- An operation that is confined is so as a step. -/
theorem confines_lift {ε α : Type} {x : StateM Disk α} (h : t.Confines x) :
    t.Confines (ExceptT.lift x : ExceptT ε (StateM Disk) α).run := by
  rw [ExceptT.run_lift, ← bind_pure_comp]
  exact confines_bind h fun _ => confines_pure _

/-- Looking for a file below the directory. -/
theorem confines_existing (hq : Path.IsPlain q) :
    t.Confines (Writer.existing (m := StateM Disk) (Path.join t.path q)).run := by
  rw [Writer.existing, ExceptT.run_mk]
  refine confines_bind (confines_read (t.reaches_join hq) (splitAt_ne_nil q)) fun answer => ?_
  rcases answer with ⟨fault, text⟩ | bytes
  · cases fault <;> exact confines_pure _
  · exact confines_pure _

/-- Finishing a draft for a place below the directory. -/
theorem confines_finish (hq : Path.IsPlain q) (draft : Disk.Draft) :
    t.Confines (Writer.finish (m := StateM Disk) draft (Path.join t.path q) a).run := by
  have hpersist (draft : Disk.Draft) : t.Confines (onFile (m := StateM Disk) (Path.join t.path q)
      "persist" (Files.persist draft (Path.join t.path q))).run :=
    confines_onFile (confines_persist (t.reaches_join hq) (splitAt_ne_nil q) draft)
  unfold Writer.finish
  refine confines_bind_except (confines_onFile (confines_fill _ _)) fun filled => ?_
  dsimp only
  split
  · exact confines_bind_except (confines_onFile (confines_makeDraftExecutable _)) fun ready =>
      hpersist ready
  · rw [pure_bind]
    exact hpersist filled

/-- Writing by way of a draft below the directory. -/
theorem confines_replace (hq : Path.IsPlain q) (hparent : t.Reaches parent front)
    (hne : parent ≠ "") :
    t.Confines (Writer.replace (m := StateM Disk) parent (Path.join t.path q) a).run := by
  unfold Writer.replace
  refine confines_bind_except (confines_onFile (confines_draft hparent hne)) fun draft => ?_
  exact confines_tryCatch (confines_finish hq draft) fun problem => confines_pure _

/-- Installing an artifact and its backup, both below the directory. -/
theorem confines_install (hq : Path.IsPlain q) {backup : Option String}
    (hbackup : ∀ target ∈ backup, ∃ rest, t.Reaches target rest ∧ rest ≠ []) :
    t.Confines (Writer.install (m := StateM Disk) (Path.join t.path q) backup a).run := by
  obtain ⟨parent, front, hparent, hne, hreaches⟩ := t.exists_parent hq
  unfold Writer.install
  rw [hparent]
  refine confines_bind_except (confines_onFile (confines_makeDirectories hreaches)) fun _ => ?_
  have hreplace := confines_replace (a := a) hq hreaches hne
  cases backup with
  | none => exact hreplace
  | some target =>
    obtain ⟨rest, htarget, hrest⟩ := hbackup target rfl
    have hmove := confines_move (t.reaches_join hq) (splitAt_ne_nil q) htarget hrest
    exact confines_bind_except (confines_onFile hmove) fun _ => hreplace

/-- Writing a file at a plain path below the directory. -/
theorem confines_writeFile (hq : Path.IsPlain q) :
    t.Confines (w.writeFile (m := StateM Disk) (Path.join t.path q) a).run := by
  unfold Writer.writeFile
  refine confines_bind_except (confines_existing hq) fun found => ?_
  dsimp only
  split
  · split
    · refine confines_bind_except (confines_onFile ?_) fun _ => confines_pure _
      exact confines_makeExecutable (t.reaches_join hq) (splitAt_ne_nil q)
    · exact confines_pure _
  · split
    · exact confines_pure _
    · refine confines_bind_except (confines_install hq fun target htarget => ?_) fun _ =>
        confines_pure _
      refine ⟨Text.splitAt '/' (q ++ ".bak"), ?_, splitAt_ne_nil _⟩
      split at htarget
      · cases htarget
        rw [Path.backupPath_join hq]
        exact t.reaches_join hq.backup
      · cases htarget

/-- Writing an artifact below the directory: its path is refused or plain. -/
theorem confines_writeBelow : t.Confines (w.writeBelow t.path a).run := by
  cases hvalid : validatePath a.path with
  | error problem =>
    rw [Writer.writeBelow, hvalid]
    exact confines_pure _
  | ok u =>
    rw [Writer.writeBelow_of_valid hvalid]
    exact confines_bind_except (confines_writeFile (Path.isPlain_of_validatePath hvalid)) fun _ =>
      confines_pure _

/-- **Writing artifacts is confined to the directory** below which they are written. -/
theorem confines_writeAll : t.Confines (w.writeAll (m := StateM Disk) t.path artifacts).run := by
  have hfiles : t.Confines (artifacts.mapM (w.writeBelow t.path)).run := by
    induction artifacts with
    | nil => exact confines_pure _
    | cons a artifacts ih =>
      rw [List.mapM_cons]
      exact confines_bind_except confines_writeBelow fun _ =>
        confines_bind_except ih fun _ => confines_pure _
  rw [Writer.writeAll_eq]
  exact confines_bind_except hfiles fun _ => confines_pure _

end CliGen.Trail
