import CliGen.Artifact.Writer
import CliGen.Proofs.Artifact.Assembly
import CliGen.Proofs.Text.Blank

/-!
# Paths below a directory

The steps along a path of plain names below a directory are the steps to the directory and then the
names (`Path.steps_join`), and the backup of such a path is such a path (`Path.backupPath_join`).
-/

namespace CliGen

/-! ## Names -/

/-- Characters that do not separate become part of the last piece. -/
theorem Text.pieces_append_of_none {separates : Char → Bool} {ds : List Char}
    (h : ∀ d ∈ ds, separates d = false) (cs : List Char) :
    ∃ front last, pieces separates cs = front ++ [last] ∧
      pieces separates (cs ++ ds) = front ++ [last ++ ds] := by
  induction cs with
  | nil => exact ⟨[], [], rfl, pieces_of_none h⟩
  | cons c cs ih =>
    obtain ⟨front, last, hcs, happend⟩ := ih
    by_cases hc : separates c = true
    · refine ⟨[] :: front, last, ?_, ?_⟩
      · rw [pieces, if_pos hc, hcs, List.cons_append]
      · rw [List.cons_append, pieces, if_pos hc, happend, List.cons_append]
    · rw [List.cons_append, pieces, pieces, if_neg hc, if_neg hc, hcs, happend]
      cases front with
      | nil => exact ⟨[], c :: last, rfl, rfl⟩
      | cons p front => exact ⟨(c :: p) :: front, last, rfl, rfl⟩

/-- A text can be told from its parts. -/
theorem Text.splitAt_inj {separator : Char} {s t : String}
    (h : splitAt separator s = splitAt separator t) : s = t := by
  rw [← intercalate_splitAt separator s, h, intercalate_splitAt]

/-- What is put behind a text without a separator in it lengthens the last piece. -/
theorem Text.splitAt_append {separator : Char} {t : String} (h : separator ∉ t.toList)
    (s : String) : ∃ front last, splitAt separator s = front ++ [last] ∧
      splitAt separator (s ++ t) = front ++ [last ++ t] := by
  have hnone : ∀ c ∈ t.toList, (c == separator) = false := by
    intro c hc
    rw [beq_eq_false_iff_ne]
    rintro rfl
    exact h hc
  obtain ⟨front, last, hs, hst⟩ := pieces_append_of_none hnone s.toList
  refine ⟨front.map String.ofList, String.ofList last, ?_, ?_⟩
  · rw [splitAt, hs, List.map_append, List.map_singleton]
  · rw [splitAt, String.toList_append, hst, List.map_append, List.map_singleton,
      String.ofList_append, String.ofList_toList]

/-- A separator cuts a text. -/
theorem Text.splitAt_append_separator (separator : Char) (s t : String) :
    splitAt separator (s ++ String.singleton separator ++ t) =
      splitAt separator s ++ splitAt separator t := by
  rw [splitAt, String.toList_append, String.toList_append, String.toList_singleton,
    List.append_assoc, List.singleton_append, pieces_append_separator (by simp), List.map_append]
  rfl

/-- No piece holds the separator. -/
theorem Text.notMem_of_mem_splitAt {separator : Char} {s piece : String}
    (h : piece ∈ splitAt separator s) : separator ∉ piece.toList := by
  obtain ⟨p, hp, rfl⟩ := List.mem_map.1 h
  intro hc
  rw [String.toList_ofList] at hc
  simpa using mem_pieces hp hc

/-- A text without separators is its only part. -/
theorem Text.splitAt_of_notMem {separator : Char} {s : String} (h : separator ∉ s.toList) :
    splitAt separator s = [s] := by
  have hnone : ∀ c ∈ s.toList, (c == separator) = false := by
    intro c hc
    rw [beq_eq_false_iff_ne]
    rintro rfl
    exact h hc
  rw [splitAt, pieces_of_none hnone, List.map_singleton, String.ofList_toList]

/-- Texts without the separator that are joined by it are cut again. -/
theorem Text.splitAt_intercalate {separator : Char} {parts : List String} (hne : parts ≠ [])
    (hnone : ∀ part ∈ parts, separator ∉ part.toList) :
    splitAt separator ((String.singleton separator).intercalate parts) = parts := by
  rw [splitAt, String.toList_intercalate, String.toList_singleton,
    pieces_intercalate (by simp) (by simpa using hne), List.flatMap_map, List.map_flatMap]
  calc parts.flatMap (splitAt separator)
    _ = parts.flatMap fun part => [part] :=
      List.flatMap_congr fun part hpart => splitAt_of_notMem (hnone part hpart)
    _ = parts := by simp

namespace Path

/-- A step that leads to something of that name. -/
def IsName (step : String) : Prop := isIdle step = false ∧ step ≠ ".."

/-- A path of nothing but names. -/
def IsPlain (path : String) : Prop := ∀ step ∈ Text.splitAt '/' path, IsName step

/-- A name is any step but the idle ones and the step back. -/
theorem isName_iff {step : String} : IsName step ↔ step ≠ "" ∧ step ≠ "." ∧ step ≠ ".." := by
  simp [IsName, isIdle, and_assoc]

/-- The paths that artifacts may have are plain. -/
theorem isPlain_of_validatePath {path : String} (h : validatePath path = .ok ()) :
    IsPlain path := fun step hstep =>
  isName_iff.2 ((validatePath_eq_ok_iff.1 h).2.2 step hstep)

/-- A plain path is not absolute. -/
theorem IsPlain.isAbsolute_eq {path : String} (h : IsPlain path) : isAbsolute path = false := by
  rw [isAbsolute, decide_eq_false_iff_not]
  intro hhead
  obtain ⟨cs, hcs⟩ := List.head?_eq_some_iff.1 hhead
  have hempty : "" ∈ Text.splitAt '/' path := by
    rw [Text.splitAt, hcs, Text.pieces, if_pos (by decide), List.map_cons]
    exact List.mem_cons_self
  exact absurd (h "" hempty).1 (by decide)

/-- A plain path is not empty. -/
theorem IsPlain.ne_empty {path : String} (h : IsPlain path) : path ≠ "" := by
  rintro rfl
  exact absurd (h "" (by decide)).1 (by decide)

/-- The names along a path are never none. -/
theorem IsPlain.exists_last {path : String} (h : IsPlain path) :
    ∃ front name, Text.splitAt '/' path = front ++ [name] ∧ (∀ step ∈ front, IsName step) ∧
      IsName name := by
  have hne : Text.splitAt '/' path ≠ [] := by simp [Text.splitAt, Text.pieces_ne_nil]
  refine ⟨_, _, (List.dropLast_append_getLast hne).symm, fun step hstep => ?_, ?_⟩
  · exact h step (List.dropLast_subset _ hstep)
  · exact h _ (List.getLast_mem hne)

/-! ## Paths below a directory -/

/-- The steps to a directory, as they stand in a path below it. -/
def stepsTo (root : String) : List String :=
  if root == "" || root.toList.getLast? = some '/' then (steps root).dropLast else steps root

/-- A plain path is joined with a slash in between, unless there is one or nothing stands in front.
-/
theorem join_of_plain {path : String} (h : IsPlain path) (root : String) :
    join root path =
      if root == "" || root.toList.getLast? = some '/' then root ++ path
      else root ++ "/" ++ path := by
  rw [join, h.isAbsolute_eq, if_neg (by decide)]

/-- Joining a plain path answers a path that is not empty. -/
theorem join_ne_empty {path : String} (h : IsPlain path) (root : String) : join root path ≠ "" := by
  rw [join_of_plain h]
  split <;> simp [String.append_eq_empty_iff, h.ne_empty]

/-- Whether a path is absolute is told by its beginning. -/
theorem isAbsolute_append {s : String} (h : s ≠ "") (t : String) :
    isAbsolute (s ++ t) = isAbsolute s := by
  have hne : s.toList ≠ [] := by simpa using h
  rw [isAbsolute, isAbsolute, String.toList_append, List.head?_append_of_ne_nil _ hne]

/-- A joined path is absolute if its root is. -/
theorem isAbsolute_join {path : String} (h : IsPlain path) (root : String) :
    isAbsolute (join root path) = isAbsolute root := by
  rw [join_of_plain h]
  by_cases hroot : root = ""
  · subst hroot
    exact h.isAbsolute_eq
  · split
    · exact isAbsolute_append hroot path
    · rw [String.append_assoc]
      exact isAbsolute_append hroot _

/-- The steps of a path are its parts, without the empty one in front of an absolute path. -/
theorem steps_eq_drop (path : String) :
    steps path = (Text.splitAt '/' path).drop (if isAbsolute path then 1 else 0) := by
  rw [steps]
  split <;> simp

/-- The part in front of an absolute path can be dropped before or after steps are added, as there
is always a part. -/
theorem drop_splitAt_append {s : String} {n : Nat} (hn : n ≤ 1) (steps : List String) :
    (Text.splitAt '/' s ++ steps).drop n = (Text.splitAt '/' s).drop n ++ steps := by
  have hlength : 1 ≤ (Text.splitAt '/' s).length := by
    simp [Text.splitAt, Nat.one_le_iff_ne_zero, Text.pieces_ne_nil]
  exact List.drop_append_of_le_length (Nat.le_trans hn hlength)

/-- The steps along a plain path below a directory. -/
theorem steps_join {path : String} (h : IsPlain path) (root : String) :
    steps (join root path) = stepsTo root ++ Text.splitAt '/' path := by
  rw [steps_eq_drop, isAbsolute_join h]
  generalize hn : (if isAbsolute root then 1 else 0) = n
  have hle : n ≤ 1 := by
    rw [← hn]
    split <;> decide
  rw [join_of_plain h, stepsTo, steps_eq_drop, hn]
  by_cases hempty : root = ""
  · subst hempty
    rw [← hn]
    simp [isAbsolute, Text.splitAt, Text.pieces]
  by_cases hslash : root.toList.getLast? = some '/'
  · -- The slash at the end of a directory parts it from the path below.
    obtain ⟨front, hfront⟩ := List.getLast?_eq_some_iff.1 hslash
    obtain ⟨directory, rfl⟩ : ∃ s, root = s ++ String.singleton '/' ++ "" := by
      refine ⟨String.ofList front, ?_⟩
      rw [← String.toList_inj, hfront]
      simp
    have hroot := Text.splitAt_append_separator '/' directory ""
    have hjoined := Text.splitAt_append_separator '/' directory path
    rw [if_pos (by simp), if_pos (by simp), hroot, drop_splitAt_append hle,
      String.append_empty, hjoined, drop_splitAt_append hle]
    simp [Text.splitAt, Text.pieces]
  · -- A slash has to come in between.
    have hjoined := Text.splitAt_append_separator '/' root path
    rw [if_neg (by simp [hempty, hslash]), if_neg (by simp [hempty, hslash]),
      ← drop_splitAt_append hle]
    exact congrArg _ hjoined

/-- A path below a directory does not end in a slash. -/
theorem stepsTo_join {path : String} (h : IsPlain path) (root : String) :
    stepsTo (join root path) = stepsTo root ++ Text.splitAt '/' path := by
  have hslash : path.toList.getLast? ≠ some '/' := by
    intro hlast
    obtain ⟨front, hfront⟩ := List.getLast?_eq_some_iff.1 hlast
    have hpath : path = String.ofList front ++ String.singleton '/' ++ "" := by
      rw [← String.toList_inj, hfront]
      simp
    have hempty : "" ∈ Text.splitAt '/' path := by
      rw [hpath, Text.splitAt_append_separator]
      exact List.mem_append_right _ List.mem_cons_self
    exact absurd (h "" hempty).1 (by decide)
  have hlast : (join root path).toList.getLast? ≠ some '/' := by
    have hne : path.toList ≠ [] := by simpa using h.ne_empty
    rw [join_of_plain h]
    split <;> simpa only [String.toList_append, List.getLast?_append_of_ne_nil _ hne] using hslash
  rw [stepsTo, if_neg (by simp [join_ne_empty h, hlast]), steps_join h]

/-! ## The directory above -/

/-- The directory above something that is reached by two names at last. -/
theorem exists_parent {path a b : String} {above : List String} (h : steps path = above ++ [a, b])
    (ha : IsName a) (hb : IsName b) : ∃ parent, parent? path = some parent ∧ parent ≠ "" ∧
      isAbsolute parent = isAbsolute path ∧ steps parent = above ++ [a] := by
  rw [steps_eq_drop] at h
  generalize hn : (if isAbsolute path then 1 else 0) = n at h
  have hle : n ≤ 1 := by
    rw [← hn]
    split <;> decide
  -- The last two steps are the last two parts of the path, also where it is absolute.
  obtain ⟨front, hfront⟩ : ∃ front, Text.splitAt '/' path = front ++ [a] ++ [b] := by
    refine ⟨(Text.splitAt '/' path).take n ++ above, ?_⟩
    rw [List.append_assoc, List.append_assoc, List.singleton_append, ← h, List.take_append_drop]
  have hcut : Text.splitAt '/' ("/".intercalate (front ++ [a])) = front ++ [a] := by
    refine Text.splitAt_intercalate (by simp) fun part hpart => ?_
    refine Text.notMem_of_mem_splitAt (s := path) ?_
    rw [hfront]
    exact List.mem_append_left _ hpart
  -- So the path is its parent with a slash and the last name behind it.
  have hpath : path = "/".intercalate (front ++ [a]) ++ "/" ++ b := by
    have hjoined := Text.splitAt_append_separator '/' ("/".intercalate (front ++ [a])) b
    have hlast : b ∈ Text.splitAt '/' path := by simp [hfront]
    rw [hcut, Text.splitAt_of_notMem (Text.notMem_of_mem_splitAt hlast), ← hfront] at hjoined
    exact (Text.splitAt_inj hjoined).symm
  have hne : "/".intercalate (front ++ [a]) ≠ "" := by
    intro hempty
    rw [hempty] at hcut
    have hlast : a ∈ Text.splitAt '/' "" := by simp [hcut]
    obtain rfl : a = "" := by simpa [Text.splitAt, Text.pieces] using hlast
    exact absurd ha.1 (by decide)
  have habsolute : isAbsolute ("/".intercalate (front ++ [a])) = isAbsolute path := by
    rw [hpath, String.append_assoc, isAbsolute_append hne]
  refine ⟨"/".intercalate (front ++ [a]), ?_, hne, habsolute, ?_⟩
  · -- Only the last name is dropped, as neither of the two is idle.
    have hdrop (step : String) (hstep : IsName step) (rest : List String) :
        dropIdle (step :: rest) = step :: rest := by
      unfold dropIdle
      split
      next heq => cases heq
      next heq =>
        cases heq
        exact absurd hstep.1 (by decide)
      next heq =>
        cases heq
        rw [if_neg (by simp [hstep.1])]
    rw [parent?, hfront, List.reverse_append, List.reverse_append, List.reverse_singleton,
      List.reverse_singleton, List.singleton_append, List.singleton_append, hdrop b hb]
    dsimp only
    rw [hdrop a ha]
    simp
  · rw [steps_eq_drop, habsolute, hn, hcut]
    rw [hfront, List.drop_append_of_le_length (by simpa using Nat.le_add_left_of_le hle)] at h
    exact List.append_cancel_right (h.trans (List.append_cons above a [b]))

/-! ## Backups -/

/-- The path of a backup is plain if the path is. -/
theorem IsPlain.backup {path : String} (h : IsPlain path) : IsPlain (path ++ ".bak") := by
  have hnone : '/' ∉ ".bak".toList := by decide
  obtain ⟨front, name, hpath, hbackup⟩ := Text.splitAt_append hnone path
  intro step hstep
  rw [hbackup, List.mem_append, List.mem_singleton] at hstep
  rcases hstep with hstep | rfl
  · exact h step (by rw [hpath]; exact List.mem_append_left _ hstep)
  · have hlong : 4 ≤ (name ++ ".bak").length := by
      rw [String.length_append]
      exact Nat.le_add_left 4 _
    refine isName_iff.2 ⟨?_, ?_, ?_⟩ <;> intro heq <;>
      exact absurd hlong (by rw [heq]; decide)

/-- No file is its own backup. -/
theorem ne_backup (path : String) : path ≠ path ++ ".bak" := by
  intro heq
  have hlength := congrArg String.length heq
  rw [String.length_append] at hlength
  exact absurd hlength (by simp)

/-- The backup of a file below a directory lies below it too. -/
theorem backupPath_join {path : String} (h : IsPlain path) (root : String) :
    Writer.backupPath (join root path) = join root (path ++ ".bak") := by
  rw [Writer.backupPath, join_of_plain h, join_of_plain h.backup]
  split <;> simp only [String.append_assoc]

end Path

end CliGen
