import CliGen.Proofs.Artifact.Assembly
import Mathlib.Data.List.Forall2
import Mathlib.Data.List.Induction

/-!
# Files that are refused

The files of a target are looked at one by one, each with the paths of those in front of it, and
then all of them together. The pass says what can be said of the list as a whole
(`Artifact.assemble_exact`): files that are acceptable come out as the files of the target, and of
others the first one at fault is told, or else which of the files that every target has is missing.

## Shape of the proof

`Fault` tells what is wrong with one file, given the paths in front of it, and the check of the file
refuses it as it is told (`Fault.check`). A pass goes over sound files and ends at the first one
that is at fault (`stamp_of_fault`); and files that are not sound have one (`exists_firstFault`).
-/

namespace CliGen

open Outcome

/-- The path that is refused is told. -/
theorem meets_validatePath (path : String) :
    Meets (fun p => ∃ reason, p = .artifactPath path reason) (validatePath path) := by
  have hrefuse (reason : String) : Meets (fun p => ∃ reason, p = .artifactPath path reason)
      (.error (.artifactPath path reason) : Outcome Unit) := meets_error ⟨reason, rfl⟩
  unfold validatePath
  extract_lets refuse checkSegment
  -- A segment is refused by the path that it stands in.
  have hsegments : Meets (fun p => ∃ reason, p = .artifactPath path reason)
      ((Text.splitAt '/' path).forM checkSegment) := by
    refine meets_forM fun segment _ => ?_
    unfold checkSegment
    split
    · exact hrefuse _
    split
    · exact hrefuse _
    · exact meets_ok ()
  split
  · exact hrefuse _
  split
  · exact hrefuse _
  split
  · exact hrefuse _
  · split
    · exact hrefuse _
    · exact hsegments
  · exact hsegments

namespace Artifact

/-! ## Faults -/

/-- What is wrong with a file behind files with the paths `seen`, and how it is told. -/
inductive Fault (seen : List String) (a : Artifact) : String → Prop
  | path {reason : String} (h : validatePath a.path = .error (.artifactPath a.path reason)) :
    Fault seen a reason
  | repeated (hvalid : validatePath a.path = .ok ()) (h : a.path ∈ seen) :
    Fault seen a "path produced more than once"
  | executable (hvalid : validatePath a.path = .ok ()) (hnew : a.path ∉ seen)
    (h : a.executable = true) (hkind : ¬ (a.kind = .entryPoint ∨ a.kind = .bootstrap)) :
    Fault seen a s!"{a.kind.name} artifacts cannot be executable"

/-- The first file with something wrong, and how it is told. -/
def FirstFault (files : List Artifact) (a : Artifact) (reason : String) : Prop :=
  ∃ before after, files = before ++ a :: after ∧ Sound before ∧
    Fault (before.map (·.path)) a reason

variable {seen : List String} {a : Artifact} {files before : List Artifact} {reason : String}

/-- A file has something wrong, or it may stand behind the others. -/
theorem exists_fault_or (seen : List String) (a : Artifact) : (∃ reason, Fault seen a reason) ∨
    validatePath a.path = .ok () ∧ a.path ∉ seen ∧
      (a.executable = true → a.kind = .entryPoint ∨ a.kind = .bootstrap) := by
  cases hpath : validatePath a.path with
  | error p =>
    obtain ⟨reason, rfl⟩ := meets_validatePath a.path p hpath
    exact .inl ⟨reason, .path hpath⟩
  | ok _ =>
    by_cases hseen : a.path ∈ seen
    · exact .inl ⟨_, .repeated hpath hseen⟩
    by_cases hkind : a.executable = true → a.kind = .entryPoint ∨ a.kind = .bootstrap
    · exact .inr ⟨rfl, hseen, hkind⟩
    · rw [Classical.not_imp] at hkind
      exact .inl ⟨_, .executable hpath hseen hkind.1 hkind.2⟩

/-- A file is refused as it is told. -/
theorem Fault.check (h : Fault seen a reason) :
    check seen a = .error (.artifactPath a.path reason) := by
  unfold Artifact.check
  cases h with
  | path h => rw [h, error_bind]
  | repeated hvalid h =>
    rw [hvalid, ok_bind, if_pos (List.contains_iff_mem.2 h)]
    rfl
  | executable hvalid hnew h hkind =>
    rw [← mayBeExecutable_iff, Bool.not_eq_true] at hkind
    rw [hvalid, ok_bind, if_neg (by simpa using hnew), h, hkind]
    rfl

/-- Files that are not sound have a first one that is at fault. -/
theorem exists_firstFault (h : ¬ Sound files) : ∃ a reason, FirstFault files a reason := by
  induction files using List.reverseRecOn with
  | nil => exact absurd ⟨by simp, by simp, by simp⟩ h
  | append_singleton files a ih =>
    by_cases hsound : Sound files
    · rcases exists_fault_or (files.map (·.path)) a with ⟨reason, hfault⟩ | ⟨hvalid, hnew, hkind⟩
      · exact ⟨a, reason, files, [], rfl, hsound, hfault⟩
      · refine absurd ⟨?_, ?_, ?_⟩ h
        · exact List.forall_mem_append.2 ⟨hsound.validPath, by simpa using hvalid⟩
        · rw [List.map_append, List.map_singleton, List.nodup_append_comm]
          exact List.nodup_cons.2 ⟨hnew, hsound.nodup_paths⟩
        · exact List.forall_mem_append.2 ⟨hsound.executable, by simpa using hkind⟩
    · obtain ⟨b, reason, before, after, rfl, hfirst⟩ := ih hsound
      exact ⟨b, reason, before, after ++ [a], by simp, hfirst⟩

/-! ## The pass -/

/-- What is wrong depends on which paths are in front, and not on their order. -/
theorem Fault.congr {seen' : List String} (hseen : ∀ path, path ∈ seen ↔ path ∈ seen')
    (h : Fault seen a reason) : Fault seen' a reason := by
  cases h with
  | path h => exact .path h
  | repeated hvalid h => exact .repeated hvalid ((hseen _).1 h)
  | executable hvalid hnew h hkind => exact .executable hvalid (mt (hseen _).2 hnew) h hkind

/-- A pass ends at the first file that is at fault. -/
theorem stamp_of_fault (target : String) (after : List Artifact) (hsound : Sound before)
    (hnew : ∀ b ∈ before, b.path ∉ seen)
    (hfault : Fault (before.map (·.path) ++ seen) a reason) :
    stamp target seen (before ++ a :: after) = .error (.artifactPath a.path reason) := by
  induction before generalizing seen with
  | nil =>
    have hcheck : check seen a = .error (.artifactPath a.path reason) := hfault.check
    rw [List.nil_append, stamp, hcheck, error_bind]
  | cons b before ih =>
    obtain ⟨hpath, hpaths⟩ := List.forall_mem_cons.1 hsound.validPath
    obtain ⟨hrun, hexecutable⟩ := List.forall_mem_cons.1 hsound.executable
    obtain ⟨hother, hnodup⟩ := List.nodup_cons.1 hsound.nodup_paths
    rw [List.forall_mem_cons] at hnew
    have hrest : ∀ c ∈ before, c.path ∉ b.path :: seen := by
      intro c hc
      rw [List.mem_cons, not_or]
      exact ⟨fun heq => hother (List.mem_map.2 ⟨c, hc, heq⟩), hnew.2 c hc⟩
    have hmoved : Fault (before.map (·.path) ++ b.path :: seen) a reason :=
      hfault.congr fun path => by simp [or_left_comm]
    rw [List.cons_append, stamp, check_eq_ok hpath hnew.1 (mayBeExecutable_iff.2 ∘ hrun), ok_bind,
      ih ⟨hpaths, hnodup, hexecutable⟩ hrest hmoved, error_bind]

/-- Assembly is refused for the first file with something wrong, by what is wrong with it. -/
theorem assemble_of_firstFault (target : String) (h : FirstFault files a reason) :
    assemble target files = .error (.artifactPath a.path reason) := by
  obtain ⟨before, after, rfl, hsound, hfault⟩ := h
  have hstamp : stamp target [] (before ++ a :: after) = .error (.artifactPath a.path reason) :=
    stamp_of_fault target after hsound (by simp) (by rwa [List.append_nil])
  rw [assemble, hstamp, error_bind]

/-- Files are sound or have a first one that is at fault, and not both. -/
theorem sound_iff : Sound files ↔ ∀ a reason, ¬ FirstFault files a reason := by
  constructor
  · rintro hsound a reason hfirst
    have hassembled := assemble_of_sound "" hsound
    rw [assemble_of_firstFault "" hfirst] at hassembled
    split at hassembled
    · split at hassembled <;> cases hassembled
    · cases hassembled
  · intro hnone
    by_contra hsound
    obtain ⟨a, reason, hfirst⟩ := exists_firstFault hsound
    exact hnone a reason hfirst

/-! ## Files of a target -/

/-- A file is the same as another, but it is told for which target it is. -/
structure ToldFor (target : String) (a b : Artifact) : Prop where
  same : { b with metadata := a.metadata } = a
  lookup : ∀ key, b.metadata.lookup key =
    if key = "target" then some target else a.metadata.lookup key

/-- A file that is told for a target is otherwise the same. -/
theorem toldFor_withMeta (target : String) (a : Artifact) :
    ToldFor target a (a.withMeta "target" target) where
  same := rfl
  lookup key := a.metadata.lookup_put "target" key target

/-- **Which files are refused, and how.** Files are the files of a target exactly if they are sound
and have an entry point and a bootstrap script. They keep their order then, and each is the same but
told for which target it is. Files that are not sound have a first one at fault: its path is not
plain or is that of a file in front of it, or it is executable but neither an entry point nor a
bootstrap script. It is told by its path. Else it is told that there is no entry point, or that
there is an entry point but no bootstrap script. -/
theorem assemble_exact (target : String) (files : List Artifact) :
    (∀ assembled, assemble target files = .ok assembled ↔
      (Sound files ∧ (∃ a ∈ files, a.kind = .entryPoint) ∧ ∃ a ∈ files, a.kind = .bootstrap) ∧
        assembled = files.map (·.withMeta "target" target)) ∧
    List.Forall₂ (ToldFor target) files (files.map (·.withMeta "target" target)) ∧
    (Sound files ↔ ∀ a reason, ¬ FirstFault files a reason) ∧
    ∀ problem, assemble target files = .error problem ↔
      (∃ a reason, FirstFault files a reason ∧ problem = .artifactPath a.path reason) ∨
      Sound files ∧ (¬ ∃ a ∈ files, a.kind = .entryPoint) ∧
        problem = .render target [] "no entry-point artifact produced" none ∨
      Sound files ∧ (∃ a ∈ files, a.kind = .entryPoint) ∧ (¬ ∃ a ∈ files, a.kind = .bootstrap) ∧
        problem = .render target [] "no bootstrap artifact produced" none := by
  refine ⟨fun assembled => ?_, ?_, sound_iff, fun problem => ?_⟩
  · by_cases hsound : Sound files
    · rw [assemble_of_sound target hsound]
      split
      next hentry =>
        split
        next hbootstrap => simp [hsound, hentry, hbootstrap, @eq_comm _ assembled]
        next hbootstrap => simp [hbootstrap]
      next hentry => simp [hentry]
    · -- Something is wrong with a file, and what is wrong first is what is told.
      obtain ⟨a, reason, hfirst⟩ := exists_firstFault hsound
      simp [assemble_of_firstFault target hfirst, hsound]
  · exact List.forall₂_map_right_iff.2 (List.forall₂_same.2 fun a _ => toldFor_withMeta target a)
  · by_cases hsound : Sound files
    · have hnone := sound_iff.1 hsound
      rw [assemble_of_sound target hsound]
      split
      next hentry =>
        split
        next hbootstrap => simp [hnone, hentry, hbootstrap]
        next hbootstrap => simp [hsound, hnone, hentry, hbootstrap, @eq_comm _ problem]
      next hentry => simp [hsound, hnone, hentry, @eq_comm _ problem]
    · -- There is one first fault, so the problem tells which it is.
      obtain ⟨a, reason, hfirst⟩ := exists_firstFault hsound
      rw [assemble_of_firstFault target hfirst]
      constructor
      · rintro ⟨⟩
        exact .inl ⟨a, reason, hfirst, rfl⟩
      · rintro (⟨b, why, hother, rfl⟩ | ⟨h, -⟩ | ⟨h, -⟩)
        · rw [← assemble_of_firstFault target hfirst, assemble_of_firstFault target hother]
        · exact absurd h hsound
        · exact absurd h hsound

end Artifact

end CliGen
