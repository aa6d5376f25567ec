import CliGen.Artifact.Assembly
import CliGen.Proofs.Outcome
import Mathlib.Data.List.Nodup

/-!
# Files that are accepted

What it takes for a path to pass (`validatePath_eq_ok_iff`), and for files to pass one by one
(`Artifact.Sound`) and as the files of a target (`Artifact.Acceptable`). What comes out are the same
files in the same order, told for which target they are (`Artifact.assemble_of_acceptable`).
-/

namespace CliGen

open Outcome

/-! ## Texts by name -/

/-- The first entry with a key is the one that is found. -/
theorem lookup_cons_ite (key other value : String) (m : List (String × String)) :
    List.lookup other ((key, value) :: m) = if other = key then some value else m.lookup other := by
  rw [List.lookup_cons]
  by_cases h : other = key
  · rw [beq_iff_eq.2 h, if_pos h]
  · rw [beq_eq_false_iff_ne.2 h, if_neg h]

/-- A key that is put is found, and the others stay. -/
theorem Metadata.lookup_put (m : Metadata) (key other value : String) :
    List.lookup other (m.put key value) = if other = key then some value else m.lookup other := by
  induction m with
  | nil => rw [put, lookup_cons_ite]
  | cons entry m ih =>
    obtain ⟨k, v⟩ := entry
    unfold put
    split
    next h =>
      subst h
      rw [lookup_cons_ite, lookup_cons_ite]
      by_cases h : other = k <;> simp only [h, if_true, if_false]
    next h =>
      split
      next => rw [lookup_cons_ite]
      next =>
        rw [lookup_cons_ite, lookup_cons_ite, ih]
        by_cases hk : other = k
        · rw [if_pos hk, if_pos hk, if_neg (hk ▸ h)]
        · rw [if_neg hk, if_neg hk]

/-- Other metadata does not change the component. -/
theorem Artifact.component?_withMeta (a : Artifact) {key : String} (h : key ≠ "component")
    (value : String) : (a.withMeta key value).component? = a.component? := by
  rw [component?, withMeta, Metadata.lookup_put, if_neg (Ne.symm h), component?]

/-! ## Paths -/

/-- A path passes if it has no backslash, no drive in front, and pieces that are names. -/
theorem validatePath_eq_ok_iff {path : String} : validatePath path = .ok () ↔
    '\\' ∉ path.toList ∧ (¬ ∃ c rest, path.toList = c :: ':' :: rest ∧ c.utf8Size = 1) ∧
      ∀ s ∈ Text.splitAt '/' path, s ≠ "" ∧ s ≠ "." ∧ s ≠ ".." := by
  unfold validatePath
  extract_lets refuse checkSegment
  have hsegment (s : String) : checkSegment s = .ok () ↔ s ≠ "" ∧ s ≠ "." ∧ s ≠ ".." := by
    simp only [checkSegment, refuse]
    grind
  have hall : (Text.splitAt '/' path).forM checkSegment = .ok () ↔
      ∀ s ∈ Text.splitAt '/' path, s ≠ "" ∧ s ≠ "." ∧ s ≠ ".." :=
    ⟨fun h s hs => (hsegment s).1 (ok_of_forM h s hs),
      fun h => forM_eq_ok fun s hs => (hsegment s).2 (h s hs)⟩
  split
  next hempty =>
    -- The only piece of an empty path is empty, and so is the first one behind a root.
    rw [String.isEmpty_iff] at hempty
    subst hempty
    simp [refuse, Text.splitAt, Text.pieces]
  split
  next hslash => simp [refuse, List.contains_iff_mem.1 hslash]
  next hslash =>
    have hslash : '\\' ∉ path.toList := by simpa using hslash
    split
    next heq => simp [refuse, Text.splitAt, heq, Text.pieces]
    next c rest _ heq =>
      split
      next hsize =>
        exact iff_of_false (by simp [refuse]) fun h => h.2.1 ⟨c, rest, heq, beq_iff_eq.1 hsize⟩
      next hsize =>
        have hdrive : ¬ ∃ d more, path.toList = d :: ':' :: more ∧ d.utf8Size = 1 := by
          rintro ⟨d, more, hpath, hd⟩
          rw [heq] at hpath
          exact hsize (beq_iff_eq.2 ((List.cons.inj hpath).1 ▸ hd))
        rw [hall, and_iff_right hslash, and_iff_right hdrive]
    next hother =>
      have hdrive : ¬ ∃ d more, path.toList = d :: ':' :: more ∧ d.utf8Size = 1 := by
        rintro ⟨d, more, hpath, -⟩
        exact hother d more hpath
      rw [hall, and_iff_right hslash, and_iff_right hdrive]

namespace Artifact

/-- Files that pass all checks. -/
structure Acceptable (files : List Artifact) : Prop where
  validPath : ∀ a ∈ files, validatePath a.path = .ok ()
  nodup_paths : (files.map (·.path)).Nodup
  mayBeExecutable : ∀ a ∈ files, a.executable = true → a.kind.mayBeExecutable = true
  entryPoint : ∃ a ∈ files, a.kind = .entryPoint
  bootstrap : ∃ a ∈ files, a.kind = .bootstrap

/-- A file passes that has a valid path, a new one, and executes only if its kind may. -/
theorem check_eq_ok {seen : List String} {a : Artifact}
    (hpath : validatePath a.path = .ok ()) (hnew : a.path ∉ seen)
    (hexecutable : a.executable = true → a.kind.mayBeExecutable = true) :
    check seen a = .ok () := by
  have hrun : (a.executable && !a.kind.mayBeExecutable) = false := by
    cases h : a.executable
    · rfl
    · simp [hexecutable h]
  rw [check, hpath, ok_bind, if_neg (by simpa using hnew), if_neg (by simp [hrun])]
  rfl

/-- Files that all pass are told for the target, each of them in its place. -/
theorem stamp_eq_ok (target : String) {seen : List String} {files : List Artifact}
    (hpaths : ∀ a ∈ files, validatePath a.path = .ok ()) (hnodup : (files.map (·.path)).Nodup)
    (hnew : ∀ a ∈ files, a.path ∉ seen)
    (hexecutable : ∀ a ∈ files, a.executable = true → a.kind.mayBeExecutable = true) :
    stamp target seen files = .ok (files.map (·.withMeta "target" target)) := by
  induction files generalizing seen with
  | nil => rfl
  | cons a files ih =>
    simp only [List.forall_mem_cons] at hpaths hnew hexecutable
    rw [List.map_cons, List.nodup_cons] at hnodup
    have hrest : ∀ b ∈ files, b.path ∉ a.path :: seen := by
      intro b hb hmem
      rcases List.mem_cons.1 hmem with heq | hmem
      · exact hnodup.1 (heq ▸ List.mem_map_of_mem hb)
      · exact hnew.2 b hb hmem
    rw [stamp, check_eq_ok hpaths.1 hnew.1 hexecutable.1, ok_bind,
      ih hpaths.2 hnodup.2 hrest hexecutable.2]
    rfl

/-- Which kinds of files may be executed. -/
theorem mayBeExecutable_iff {kind : ArtifactKind} :
    kind.mayBeExecutable = true ↔ kind = .entryPoint ∨ kind = .bootstrap := by
  cases kind <;> decide

/-- Each file has a plain path of its own, and only entry points and bootstrap scripts are
executable. -/
structure Sound (files : List Artifact) : Prop where
  validPath : ∀ a ∈ files, validatePath a.path = .ok ()
  nodup_paths : (files.map (·.path)).Nodup
  executable : ∀ a ∈ files, a.executable = true → a.kind = .entryPoint ∨ a.kind = .bootstrap

/-- Files that are acceptable have valid and distinct paths, and execute only if their kind may. -/
theorem Acceptable.sound {files : List Artifact} (h : Acceptable files) : Sound files where
  validPath := h.validPath
  nodup_paths := h.nodup_paths
  executable a ha hrun := mayBeExecutable_iff.1 (h.mayBeExecutable a ha hrun)

/-- Of sound files only those that every target has can be missing. -/
theorem assemble_of_sound (target : String) {files : List Artifact} (h : Sound files) :
    assemble target files =
      if ∃ a ∈ files, a.kind = .entryPoint then
        if ∃ a ∈ files, a.kind = .bootstrap then .ok (files.map (·.withMeta "target" target))
        else .error (.render target [] "no bootstrap artifact produced" none)
      else .error (.render target [] "no entry-point artifact produced" none) := by
  have hstamp : stamp target [] files = .ok (files.map (·.withMeta "target" target)) :=
    stamp_eq_ok target h.validPath h.nodup_paths (by simp)
      fun a ha hrun => mayBeExecutable_iff.2 (h.executable a ha hrun)
  -- Telling files for which target they are changes the kind of none.
  have hany (kind : ArtifactKind) : (files.map (·.withMeta "target" target)).any (·.kind = kind) =
      true ↔ ∃ a ∈ files, a.kind = kind := by
    simp [withMeta]
  rw [assemble, hstamp, ok_bind]
  simp only [hany]
  by_cases hentry : ∃ a ∈ files, a.kind = .entryPoint
  · by_cases hbootstrap : ∃ a ∈ files, a.kind = .bootstrap
    · rw [if_pos hentry, if_pos hbootstrap, if_pos hentry, if_pos hbootstrap]
      rfl
    · rw [if_pos hentry, if_neg hbootstrap, if_pos hentry, if_neg hbootstrap]
      rfl
  · rw [if_neg hentry, if_neg hentry]
    rfl

/-- Files that pass all checks are the files of the target. -/
theorem assemble_of_acceptable (target : String) {files : List Artifact} (h : Acceptable files) :
    assemble target files = .ok (files.map (·.withMeta "target" target)) := by
  rw [assemble_of_sound target h.sound, if_pos h.entryPoint, if_pos h.bootstrap]

private theorem eq_of_stamp {target : String} {seen : List String} {files stamped : List Artifact}
    (h : stamp target seen files = .ok stamped) :
    stamped = files.map (·.withMeta "target" target) := by
  induction files generalizing seen stamped with
  | nil => cases h; rfl
  | cons a files ih =>
    rw [stamp] at h
    obtain ⟨_, -, h⟩ := bind_eq_ok.1 h
    obtain ⟨rest, hrest, h⟩ := bind_eq_ok.1 h
    cases h
    rw [List.map_cons, ih hrest]

/-- The files of a target are those that it composed, told for which target they are. -/
theorem eq_of_assemble {target : String} {files assembled : List Artifact}
    (h : assemble target files = .ok assembled) :
    assembled = files.map (·.withMeta "target" target) := by
  obtain ⟨stamped, hstamp, h⟩ := bind_eq_ok.1 h
  rw [eq_of_stamp hstamp] at h
  split at h
  next =>
    split at h
    next => exact (Except.ok.inj h).symm
    next => simp at h
  next => split at h <;> simp at h

private theorem of_check {seen : List String} {a : Artifact} {u : Unit}
    (h : check seen a = .ok u) : validatePath a.path = .ok () ∧ a.path ∉ seen := by
  rw [check] at h
  obtain ⟨_, hvalid, h⟩ := bind_eq_ok.1 h
  refine ⟨hvalid, fun hseen => ?_⟩
  rw [if_pos (List.contains_iff_mem.2 hseen)] at h
  cases h

private theorem of_stamp {target : String} {seen : List String} {files stamped : List Artifact}
    (h : stamp target seen files = .ok stamped) :
    (∀ a ∈ files, validatePath a.path = .ok () ∧ a.path ∉ seen) ∧
      (files.map (·.path)).Nodup := by
  induction files generalizing seen stamped with
  | nil => simp
  | cons a files ih =>
    rw [stamp] at h
    obtain ⟨_, hcheck, h⟩ := bind_eq_ok.1 h
    obtain ⟨rest, hrest, -⟩ := bind_eq_ok.1 h
    obtain ⟨hvalid, hnew⟩ := of_check hcheck
    obtain ⟨hall, hnodup⟩ := ih hrest
    refine ⟨List.forall_mem_cons.2 ⟨⟨hvalid, hnew⟩, fun b hb => ?_⟩, ?_⟩
    · exact ⟨(hall b hb).1, fun hseen => (hall b hb).2 (List.mem_cons_of_mem _ hseen)⟩
    · refine List.nodup_cons.2 ⟨fun hmem => ?_, hnodup⟩
      obtain ⟨b, hb, heq⟩ := List.mem_map.1 hmem
      exact (hall b hb).2 (heq ▸ List.mem_cons_self)

/-- Files that pass all checks have plain paths, no two of them the same. -/
theorem paths_of_assemble {target : String} {files assembled : List Artifact}
    (h : assemble target files = .ok assembled) :
    (∀ a ∈ assembled, validatePath a.path = .ok ()) ∧ (assembled.map (·.path)).Nodup := by
  obtain ⟨hall, hnodup⟩ : (∀ a ∈ files, validatePath a.path = .ok () ∧ a.path ∉ []) ∧
      (files.map (·.path)).Nodup := by
    obtain ⟨stamped, hstamp, -⟩ := bind_eq_ok.1 h
    exact of_stamp hstamp
  rw [eq_of_assemble h]
  constructor
  · intro a ha
    obtain ⟨b, hb, rfl⟩ := List.mem_map.1 ha
    exact (hall b hb).1
  · rw [List.map_map]
    exact hnodup

end Artifact

end CliGen
