import CliGen.Proofs.Storage.Operations

/-!
# What stands beside a location

Two storages hold the same below a location, and one of them may have more of the directories above
it (`Storage.Beside`). Paths down to the location then lead to the same, and the same operations
below it are answered in the same way. They change nothing but what stands there, and the
directories above it that were missing (`Storage.Within`).
-/

namespace CliGen

/-- The steps that lead on. -/
def Path.names (steps : List String) : List String := steps.filter fun step => !isIdle step

namespace Storage

variable {s s' s'' : Storage} {goal other l k : Location} {ahead rest : List String} {step : String}

/-- At a location and below it the same stands in two storages. Above it the second may have
directories that are missing in the first. -/
structure Beside (s : Storage) (goal : Location) (s' : Storage) : Prop where
  below : ∀ k, goal <+: k → s'.get? k = s.get? k
  above : ∀ k, k <+: goal →
    s'.get? k = s.get? k ∨ s.get? k = none ∧ s'.get? k = some .directory

/-- Nothing differs but what stands at a location or below it, and directories above it that were
missing. -/
def Within (s : Storage) (goal : Location) (s' : Storage) : Prop :=
  ∀ k, s'.get? k = s.get? k ∨ goal <+: k ∨
    k <+: goal ∧ s.get? k = none ∧ s'.get? k = some .directory

/-- A storage holds the same as itself. -/
theorem Beside.refl (s : Storage) (goal : Location) : s.Beside goal s :=
  ⟨fun _ _ => rfl, fun _ _ => .inl rfl⟩

/-- Where nothing happens, nothing happens outside of a directory. -/
theorem Within.refl (s : Storage) (goal : Location) : s.Within goal s := fun _ => .inl rfl

/-- Steps that change nothing outside of a directory come to one that does not. -/
theorem Within.trans (h : s.Within goal s') (h' : s'.Within goal s'') : s.Within goal s'' := by
  intro k
  rcases h' k with hsame' | hbelow | ⟨habove, hnone, hmade⟩
  · rcases h k with hsame | hbelow | ⟨habove, hnone, hmade⟩
    · exact .inl (hsame'.trans hsame)
    · exact .inr (.inl hbelow)
    · exact .inr (.inr ⟨habove, hnone, hsame'.trans hmade⟩)
  · exact .inr (.inl hbelow)
  · rcases h k with hsame | hbelow | ⟨-, -, hmade'⟩
    · exact .inr (.inr ⟨habove, hsame ▸ hnone, hmade⟩)
    · exact .inr (.inl hbelow)
    · rw [hnone] at hmade'
      cases hmade'

/-- What is done within another location leaves what stands beside it. -/
theorem Beside.of_within (h : s.Beside goal s') (hwithin : s'.Within other s'')
    (hgoal : ¬ goal <+: other) (hother : ¬ other <+: goal) : s.Beside goal s'' where
  below k hk := by
    rcases hwithin k with hsame | hbelow | ⟨habove, -, -⟩
    · rw [hsame, h.below k hk]
    · rcases List.prefix_or_prefix_of_prefix hk hbelow with hprefix | hprefix
      · exact absurd hprefix hgoal
      · exact absurd hprefix hother
    · exact absurd (hk.trans habove) hgoal
  above k hk := by
    rcases hwithin k with hsame | hbelow | ⟨-, hnone, hmade⟩
    · rw [hsame]
      exact h.above k hk
    · exact absurd (hbelow.trans hk) hother
    · rcases h.above k hk with hsame | ⟨-, hdirectory⟩
      · exact .inr ⟨hsame ▸ hnone, hmade⟩
      · rw [hnone] at hdirectory
        cases hdirectory

/-! ## Entries that are put and erased -/

/-- Putting the same entry in both storages leaves them alike. -/
theorem Beside.put (h : s.Beside goal s') (hl : l ≠ []) (e : Entry) :
    (s.put l e).Beside goal (s'.put l e) where
  below k hk := by
    rw [get?_put s' hl, get?_put s hl, h.below k hk]
  above k hk := by
    rw [get?_put s' hl, get?_put s hl]
    split
    · exact .inl rfl
    · exact h.above k hk

/-- Erasing the same location in both storages leaves them alike. -/
theorem Beside.erase (h : s.Beside goal s') (hl : l ≠ []) :
    (s.erase l).Beside goal (s'.erase l) where
  below k hk := by
    rw [get?_erase s' hl, get?_erase s hl, h.below k hk]
  above k hk := by
    rw [get?_erase s' hl, get?_erase s hl]
    split
    · exact .inl rfl
    · exact h.above k hk

/-- A directory that the second storage has is made in the first. -/
theorem Beside.make (h : s.Beside goal s') (hl : l ≠ [])
    (hdirectory : s'.get? l = some .directory) : (s.put l .directory).Beside goal s' where
  below k hk := by
    rw [get?_put s hl]
    split
    · next heq => rw [heq, hdirectory]
    · exact h.below k hk
  above k hk := by
    rw [get?_put s hl]
    split
    · next heq => exact .inl (heq ▸ hdirectory)
    · exact h.above k hk

/-- What is put below a directory changes nothing outside of it. -/
theorem within_put (hl : l ≠ []) (hbelow : goal <+: l) (e : Entry) : s.Within goal (s.put l e) := by
  intro k
  rw [get?_put s hl]
  split
  · next heq => exact .inr (.inl (heq ▸ hbelow))
  · exact .inl rfl

/-- What is erased below a directory changes nothing outside of it. -/
theorem within_erase (hl : l ≠ []) (hbelow : goal <+: l) : s.Within goal (s.erase l) := by
  intro k
  rw [get?_erase s hl]
  split
  · next heq => exact .inr (.inl (heq ▸ hbelow))
  · exact .inl rfl

/-- A directory made on the way to another one changes nothing else. -/
theorem within_make (hl : l ≠ []) (habove : l <+: goal) (hnone : s.get? l = none) :
    s.Within goal (s.put l .directory) := by
  intro k
  rw [get?_put s hl]
  split
  · next heq => exact .inr (.inr ⟨heq ▸ habove, heq ▸ hnone, rfl⟩)
  · exact .inl rfl

/-! ## Paths down to the location -/

/-- Steps that can be made to lead somewhere: there is no step back to a parent directory, and no
name is too long. -/
def CanLead (steps : List String) : Prop :=
  ∀ step ∈ steps, step ≠ ".." ∧ step.utf8ByteSize ≤ longestName

instance (steps : List String) : Decidable (CanLead steps) :=
  inferInstanceAs (Decidable (∀ step ∈ steps, step ≠ ".." ∧ step.utf8ByteSize ≤ longestName))

/-- A step that does not lead back only adds its name, if it has one. -/
theorem enter_append_names (h : step ≠ "..") (l : Location) (steps : List String) :
    enter l step ++ Path.names steps = l ++ Path.names (step :: steps) := by
  rw [enter, Path.names, Path.names, List.filter_cons]
  cases hidle : Path.isIdle step <;> simp [h]

/-- Where a directory is missing nothing stands further on. -/
theorem Rooted.enter_eq_none (hrooted : s.Rooted) (h : step ≠ "..") (hl : s.get? l = none) :
    s.get? (enter l step) = none := by
  rw [enter, if_neg h]
  split
  · exact hl
  · by_contra hstands
    have hparent := hrooted _ hstands
    rw [List.dropLast_concat, hl] at hparent
    cases hparent

/-- Names lead to the same from below the directory on, in both storages. -/
theorem follow_eq_of_below (h : s.Beside goal s') (hrest : ∀ step ∈ rest, Path.IsName step)
    (hl : goal <+: l) : s'.follow l rest = s.follow l rest := by
  induction rest generalizing l with
  | nil => rfl
  | cons step rest ih =>
    obtain ⟨hstep, hrest⟩ := List.forall_mem_cons.1 hrest
    rw [follow, follow, h.below l hl]
    split
    · rfl
    · rfl
    · simp only [hstep.1, hstep.2, Bool.false_eq_true, if_false,
        ih hrest (hl.trans (List.prefix_append l [step]))]

/-- From a directory that the first storage does not have, the second leads to nothing below the
location. -/
theorem Beside.follow_of_missing (h : s.Beside goal s') (hrooted : s.Rooted)
    (hahead : CanLead ahead) (hgoal : l ++ Path.names ahead = goal) (hnone : s.get? l = none)
    (hrest : rest ≠ []) : s'.follow l (ahead ++ rest) = .error .notFound := by
  induction ahead generalizing l with
  | nil =>
    obtain ⟨step, rest, rfl⟩ := List.exists_cons_of_ne_nil hrest
    have hl : goal <+: l := by simp [← hgoal, Path.names]
    rw [List.nil_append, follow_cons_of_none ((h.below l hl).trans hnone)]
  | cons step ahead ih =>
    obtain ⟨hstep, hahead⟩ := List.forall_mem_cons.1 hahead
    -- Where the second storage has the directory it leads on, but nothing stands there either.
    rcases h.above l (hgoal ▸ List.prefix_append _ _) with hsame | ⟨-, hdirectory⟩
    · rw [List.cons_append, follow_cons_of_none (hsame.trans hnone)]
    · rw [List.cons_append, follow_cons_of_directory hdirectory fun _ => hstep.2]
      exact ih hahead ((enter_append_names hstep.1 l ahead).trans hgoal)
        (hrooted.enter_eq_none hstep.1 hnone)

/-- A path below the location leads to the same in both storages. -/
theorem Beside.follow_eq (h : s.Beside goal s') (hrooted : s.Rooted) (hahead : CanLead ahead)
    (hgoal : l ++ Path.names ahead = goal) (hrest : rest ≠ [])
    (hnames : ∀ step ∈ rest, Path.IsName step) :
    s'.follow l (ahead ++ rest) = s.follow l (ahead ++ rest) := by
  induction ahead generalizing l with
  | nil => exact follow_eq_of_below h hnames (by simp [← hgoal, Path.names])
  | cons step ahead ih =>
    obtain ⟨hstep, hahead'⟩ := List.forall_mem_cons.1 hahead
    rcases h.above l (hgoal ▸ List.prefix_append _ _) with hsame | ⟨hnone, -⟩
    · cases hl : s.get? l with
      | none =>
        rw [List.cons_append, follow_cons_of_none hl, follow_cons_of_none (hsame.trans hl)]
      | some entry =>
        cases entry with
        | file bytes mode => rw [List.cons_append, follow, follow, hsame, hl]
        | directory =>
          rw [List.cons_append, follow_cons_of_directory hl fun _ => hstep.2,
            follow_cons_of_directory (hsame.trans hl) fun _ => hstep.2]
          exact ih hahead' ((enter_append_names hstep.1 l ahead).trans hgoal)
    · rw [h.follow_of_missing hrooted hahead hgoal hnone hrest, List.cons_append,
        follow_cons_of_none hnone]

/-- A path to the location or below it leads to the location, and on by its names. -/
theorem eq_append_of_follow_ahead (hahead : CanLead ahead) (hgoal : l ++ Path.names ahead = goal)
    (hnames : ∀ step ∈ rest, Path.IsName step) (h : s.follow l (ahead ++ rest) = .ok k) :
    k = goal ++ rest := by
  induction ahead generalizing l with
  | nil =>
    rw [eq_append_of_follow hnames h, ← hgoal]
    simp [Path.names]
  | cons step ahead ih =>
    obtain ⟨hstep, hahead⟩ := List.forall_mem_cons.1 hahead
    exact ih hahead ((enter_append_names hstep.1 l ahead).trans hgoal) (follow_cons_eq_ok.1 h).2.2

/-- Along a path to something that stands, something stands. -/
theorem ne_none_of_follow {steps : List String} (h : s.follow l steps = .ok k)
    (hk : s.get? k ≠ none) : s.get? l ≠ none := by
  cases steps with
  | nil =>
    rwa [follow_nil_eq_ok.1 h]
  | cons step rest =>
    rw [(follow_cons_eq_ok.1 h).1]
    exact Option.some_ne_none _

/-- What stands along a path to the location or below it is the same in both storages. -/
theorem Beside.found_iff (h : s.Beside goal s') (hrooted : s.Rooted) (hahead : CanLead ahead)
    (hgoal : l ++ Path.names ahead = goal) (hnames : ∀ step ∈ rest, Path.IsName step) {e : Entry} :
    (∃ k, s'.follow l (ahead ++ rest) = .ok k ∧ s'.get? k = some e) ↔
      ∃ k, s.follow l (ahead ++ rest) = .ok k ∧ s.get? k = some e := by
  induction ahead generalizing l with
  | nil =>
    have hl : goal <+: l := by simp [← hgoal, Path.names]
    simp only [List.nil_append, follow_eq_of_below h hnames hl]
    refine exists_congr fun k => and_congr_right fun hk => ?_
    rw [h.below k (hl.trans (eq_append_of_follow hnames hk ▸ List.prefix_append l rest))]
  | cons step ahead ih =>
    obtain ⟨hstep, hahead⟩ := List.forall_mem_cons.1 hahead
    have habove := h.above l (hgoal ▸ List.prefix_append _ _)
    have hnext := ih hahead ((enter_append_names hstep.1 l ahead).trans hgoal)
    simp only [List.cons_append, follow_cons_eq_ok]
    constructor
    · rintro ⟨k, ⟨hl, hshort, hk⟩, hentry⟩
      obtain ⟨k', hk', hentry'⟩ := hnext.1 ⟨k, hk, hentry⟩
      refine ⟨k', ⟨?_, hshort, hk'⟩, hentry'⟩
      -- If only the second storage had the directory, the first would have nothing below it.
      rcases habove with hsame | ⟨hnone, -⟩
      · rwa [← hsame]
      · exact absurd (hrooted.enter_eq_none hstep.1 hnone)
          (ne_none_of_follow hk' (by simp [hentry']))
    · rintro ⟨k, ⟨hl, hshort, hk⟩, hentry⟩
      obtain ⟨k', hk', hentry'⟩ := hnext.2 ⟨k, hk, hentry⟩
      refine ⟨k', ⟨?_, hshort, hk'⟩, hentry'⟩
      rcases habove with hsame | ⟨-, hdirectory⟩
      · rwa [hsame]
      · exact hdirectory

/-! ## Operations below the location -/

/-- An operation is refused in both storages for the same reason, or else leaves them beside each
other. -/
inductive Alike (s : Storage) (goal : Location) :
    Except SystemError Storage → Except SystemError Storage → Prop
  | refused (e : SystemError) : Alike s goal (.error e) (.error e)
  | done {r r' : Storage} (hbeside : r.Beside goal r') (hwithin : s.Within goal r) :
    Alike s goal (.ok r) (.ok r')

/-- Installing a file below the directory comes to the same in both storages. -/
theorem Beside.install (h : s.Beside goal s') (hl : goal <+: l) (bytes : ByteArray) (mode : Nat) :
    Alike s goal (s.install l bytes mode) (s'.install l bytes mode) := by
  rw [Storage.install, Storage.install, h.below l hl]
  split
  · exact .refused _
  · next hfree =>
    have hne := ne_top_of_get? (s := s) fun hdirectory => hfree hdirectory
    exact .done (h.put hne _) (within_put hne hl _)

/-- Moving a file below the directory comes to the same in both storages. -/
theorem Beside.move (h : s.Beside goal s') (hl : goal <+: l) (hk : goal <+: k) :
    Alike s goal (s.move l k) (s'.move l k) := by
  rw [Storage.move, Storage.move, h.below l hl]
  split
  · exact .refused _
  · exact .refused _
  · next bytes mode hfile =>
    have hne := ne_top_of_get? (s := s) (l := l) (by simp [hfile])
    have hinstall := (h.erase hne).install hk bytes mode
    generalize (s.erase l).install k bytes mode = x, (s'.erase l).install k bytes mode = x'
      at hinstall ⊢
    cases hinstall with
    | refused e => exact .refused e
    | done hbeside hwithin => exact .done hbeside ((within_erase hne hl).trans hwithin)

/-- Setting a mode below the directory comes to the same in both storages. -/
theorem Beside.setMode (h : s.Beside goal s') (hl : goal <+: l) (mode : Nat) :
    Alike s goal (s.setMode l mode) (s'.setMode l mode) := by
  rw [Storage.setMode, Storage.setMode, h.below l hl]
  split
  · exact .refused _
  · exact .done h (Within.refl s goal)
  · next bytes old hfile =>
    have hne := ne_top_of_get? (s := s) (l := l) (by simp [hfile])
    exact .done (h.put hne _) (within_put hne hl _)

/-- Directories below the location are made in both storages. -/
theorem Beside.makeDirectories_below (h : s.Beside goal s')
    (hnames : ∀ step ∈ rest, Path.IsName step) (hl : goal <+: l) :
    (s'.makeDirectories l rest).1 = (s.makeDirectories l rest).1 ∧
      (s.makeDirectories l rest).2.Beside goal (s'.makeDirectories l rest).2 ∧
      s.Within goal (s.makeDirectories l rest).2 := by
  induction rest generalizing s s' l with
  | nil => exact ⟨rfl, h, Within.refl s goal⟩
  | cons step rest ih =>
    obtain ⟨hstep, hnames⟩ := List.forall_mem_cons.1 hnames
    have hnext : goal <+: l ++ [step] := hl.trans (List.prefix_append l [step])
    have hne : l ++ [step] ≠ [] := by simp
    rw [makeDirectories, makeDirectories, h.below _ hnext]
    simp only [hstep.1, hstep.2, Bool.false_eq_true, if_false]
    split
    · exact ⟨rfl, h, Within.refl s goal⟩
    split
    · obtain ⟨hanswer, hbeside, hwithin⟩ := ih (h.put hne .directory) hnames hnext
      exact ⟨hanswer, hbeside, (within_put hne hnext _).trans hwithin⟩
    · exact ih h hnames hnext
    · exact ⟨rfl, h, Within.refl s goal⟩

/-- Directories down to the location and below it are made in both storages, as far as they are
missing. -/
theorem Beside.makeDirectories (h : s.Beside goal s') (hahead : CanLead ahead)
    (hgoal : l ++ Path.names ahead = goal) (hnames : ∀ step ∈ rest, Path.IsName step) :
    (s'.makeDirectories l (ahead ++ rest)).1 = (s.makeDirectories l (ahead ++ rest)).1 ∧
      (s.makeDirectories l (ahead ++ rest)).2.Beside goal
        (s'.makeDirectories l (ahead ++ rest)).2 ∧
      s.Within goal (s.makeDirectories l (ahead ++ rest)).2 := by
  induction ahead generalizing s s' l with
  | nil => exact h.makeDirectories_below hnames (by simp [← hgoal, Path.names])
  | cons step ahead ih =>
    obtain ⟨hstep, hahead⟩ := List.forall_mem_cons.1 hahead
    have hgoal' := (enter_append_names hstep.1 l ahead).trans hgoal
    rw [List.cons_append, Storage.makeDirectories, Storage.makeDirectories]
    by_cases hidle : Path.isIdle step = true
    · rw [if_pos hidle, if_pos hidle]
      exact ih h hahead (by rwa [enter, if_pos hidle] at hgoal')
    rw [enter, if_neg hidle, if_neg hstep.1] at hgoal'
    rw [if_neg hidle, if_neg hstep.1, if_neg hidle, if_neg hstep.1,
      if_neg (Nat.not_lt.2 hstep.2), if_neg (Nat.not_lt.2 hstep.2)]
    have hne : l ++ [step] ≠ [] := by simp
    have hprefix : l ++ [step] <+: goal := hgoal' ▸ List.prefix_append _ _
    -- A step towards the directory stands in both storages, or has to be made in one of them.
    rcases h.above _ hprefix with hsame | ⟨hnone, hdirectory⟩
    · rw [hsame]
      split
      · next hnone =>
        obtain ⟨hanswer, hbeside, hwithin⟩ := ih (h.put hne .directory) hahead hgoal'
        exact ⟨hanswer, hbeside, (within_make hne hprefix hnone).trans hwithin⟩
      · exact ih h hahead hgoal'
      · exact ⟨rfl, h, Within.refl s goal⟩
    · rw [hnone, hdirectory]
      obtain ⟨hanswer, hbeside, hwithin⟩ := ih (h.make hne hdirectory) hahead hgoal'
      exact ⟨hanswer, hbeside, (within_make hne hprefix hnone).trans hwithin⟩

end Storage

end CliGen
