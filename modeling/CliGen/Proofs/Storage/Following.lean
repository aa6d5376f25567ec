import CliGen.Proofs.Storage.Paths
import CliGen.Proofs.Storage.Steps

/-!
# Following paths while a storage grows

As long as no directory goes away, a path goes on leading where it leads (`Storage.Grows.follow`).
It may begin to lead somewhere, though, when a directory along it is made. Then nothing stood where
it leads before (`Storage.follow_of_rooted`), unless a step back to the parent directory leads out
of the directory that was missing. `Disk.Anchored.get?_eq` puts this to use for the files below a
directory.
-/

namespace CliGen

namespace Storage

variable {s s' : Storage} {l k : Location} {step : String} {steps : List String}

/-- The location that one step leads to. -/
def enter (l : Location) (step : String) : Location :=
  if Path.isIdle step then l else if step = ".." then l.dropLast else l ++ [step]

/-- A name leads into the place of that name. -/
theorem enter_of_isName (h : Path.IsName step) (l : Location) : enter l step = l ++ [step] := by
  rw [enter, h.1, if_neg Bool.false_ne_true, if_neg h.2]

/-- A path without steps leads nowhere else. -/
theorem follow_nil_eq_ok : s.follow l [] = .ok k ↔ l = k := by
  rw [follow, Except.ok.injEq]

/-- No step leads on from where nothing stands. -/
theorem follow_cons_of_none (hl : s.get? l = none) (step : String) (rest : List String) :
    s.follow l (step :: rest) = .error .notFound := by
  rw [follow, hl]

/-- What it takes to follow a path: each step starts in a directory, and no name is too long. -/
theorem follow_cons_eq_ok {rest : List String} :
    s.follow l (step :: rest) = .ok k ↔ s.get? l = some .directory ∧
      (Path.IsName step → step.utf8ByteSize ≤ longestName) ∧
      s.follow (enter l step) rest = .ok k := by
  rw [follow, enter]
  split
  case h_1 hl => simp [hl]
  case h_2 hl => simp [hl]
  case h_3 hl =>
    by_cases hidle : Path.isIdle step = true
    · simp [hl, hidle, Path.IsName]
    by_cases hup : step = ".."
    · subst hup
      simp [hl, Path.isIdle, Path.IsName]
    by_cases hlong : longestName < step.utf8ByteSize
    · simp [hl, hidle, hup, hlong, Path.IsName, Nat.not_le.2 hlong]
    · simp [hl, hidle, hup, hlong, Path.IsName, Nat.le_of_not_lt hlong]

/-- A step is taken in a directory, unless it is a name that is too long. -/
theorem follow_cons_of_directory (hl : s.get? l = some .directory)
    (hshort : Path.IsName step → step.utf8ByteSize ≤ longestName) (rest : List String) :
    s.follow l (step :: rest) = s.follow (enter l step) rest := by
  rw [follow, hl, enter]
  dsimp only
  split
  · rfl
  split
  · rfl
  · next hidle hup =>
    rw [if_neg (Nat.not_lt.2 (hshort ⟨Bool.eq_false_iff.2 hidle, hup⟩))]

/-- A name that is too long cannot be looked up. -/
theorem follow_cons_of_long (hl : s.get? l = some .directory) (hname : Path.IsName step)
    (hlong : longestName < step.utf8ByteSize) (rest : List String) :
    s.follow l (step :: rest) = .error .nameTooLong := by
  rw [follow, hl]
  dsimp only
  rw [if_neg (Bool.eq_false_iff.1 hname.1), if_neg hname.2, if_pos hlong]

/-- A path is followed along its first steps, and from there along the others. -/
theorem follow_append_eq_ok {u v : List String} :
    s.follow l (u ++ v) = .ok k ↔ ∃ m, s.follow l u = .ok m ∧ s.follow m v = .ok k := by
  induction u generalizing l with
  | nil => simp [follow_nil_eq_ok]
  | cons step u ih =>
    rw [List.cons_append]
    simp only [follow_cons_eq_ok, ih]
    constructor
    · rintro ⟨hl, hshort, m, hu, hv⟩
      exact ⟨m, ⟨hl, hshort, hu⟩, hv⟩
    · rintro ⟨m, ⟨hl, hshort, hu⟩, hv⟩
      exact ⟨hl, hshort, m, hu, hv⟩

/-- A path goes on from where its first steps lead. -/
theorem follow_append_of_ok {m : Location} {u : List String} (h : s.follow l u = .ok m)
    (v : List String) : s.follow l (u ++ v) = s.follow m v := by
  induction u generalizing l with
  | nil =>
    rw [List.nil_append, follow_nil_eq_ok.1 h]
  | cons step u ih =>
    obtain ⟨hl, hshort, hu⟩ := follow_cons_eq_ok.1 h
    rw [List.cons_append, follow_cons_of_directory hl hshort, ih hu]

/-- A path does not lead further than its first steps. -/
theorem follow_append_of_error {e : SystemError} {u : List String} (h : s.follow l u = .error e)
    (v : List String) : s.follow l (u ++ v) = .error e := by
  induction u generalizing l with
  | nil => cases h
  | cons step u ih =>
    by_cases hl : s.get? l = some .directory
    · by_cases hshort : Path.IsName step → step.utf8ByteSize ≤ longestName
      · rw [follow_cons_of_directory hl hshort] at h
        rw [List.cons_append, follow_cons_of_directory hl hshort]
        exact ih h
      · obtain ⟨hname, hlong⟩ := Classical.not_imp.1 hshort
        rw [follow_cons_of_long hl hname (Nat.not_le.1 hlong)] at h
        rw [List.cons_append, follow_cons_of_long hl hname (Nat.not_le.1 hlong)]
        exact h
    · rw [follow] at h
      rw [List.cons_append, follow]
      split at h
      next => exact h
      next => exact h
      next hdirectory => exact absurd hdirectory hl

/-- Names lead down. -/
theorem eq_append_of_follow (hnames : ∀ step ∈ steps, Path.IsName step)
    (h : s.follow l steps = .ok k) : k = l ++ steps := by
  induction steps generalizing l with
  | nil =>
    rw [← follow_nil_eq_ok.1 h, List.append_nil]
  | cons step rest ih =>
    obtain ⟨hstep, hrest⟩ := List.forall_mem_cons.1 hnames
    have hnext := (follow_cons_eq_ok.1 h).2.2
    rw [ih hrest hnext, enter_of_isName hstep, List.append_assoc, List.singleton_append]

/-! ## Growth -/

/-- Directories stay. -/
def Grows (s s' : Storage) : Prop :=
  ∀ l, s.get? l = some .directory → s'.get? l = some .directory

/-- A path that leads somewhere still does where more directories stand. -/
theorem Grows.follow (hgrows : s.Grows s') (h : s.follow l steps = .ok k) :
    s'.follow l steps = .ok k := by
  induction steps generalizing l with
  | nil => exact h
  | cons step rest ih =>
    obtain ⟨hl, hshort, hrest⟩ := follow_cons_eq_ok.1 h
    exact follow_cons_eq_ok.2 ⟨hgrows l hl, hshort, ih hrest⟩

/-- Whatever stands somewhere stands in a directory. -/
def Rooted (s : Storage) : Prop := ∀ l, s.get? l ≠ none → s.get? l.dropLast = some .directory

/-- It takes a look at each entry to tell that everything stands in a directory. -/
theorem rooted_of_entries (h : ∀ e ∈ s, s.get? e.1.dropLast = some .directory) : s.Rooted := by
  intro l hl
  by_cases htop : l = []
  · rw [htop]
    exact get?_top s
  rw [get?, if_neg htop] at hl
  obtain ⟨e, he⟩ := Option.ne_none_iff_exists'.1 hl
  obtain ⟨before, after, hsplit, -⟩ := List.lookup_eq_some_iff.1 he
  exact h (l, e) (by simp [hsplit])

/-- A path without steps back to a parent directory leads to what stands somewhere at once, if it
ever leads there. -/
theorem follow_of_rooted (hrooted : s.Rooted) {v : List String} {name : String} (hdown : ".." ∉ v)
    (hname : Path.IsName name) (hlater : s'.follow l (v ++ [name]) = .ok k)
    (hstands : s.get? k ≠ none) : s.follow l (v ++ [name]) = .ok k := by
  induction v generalizing l with
  | nil =>
    obtain ⟨-, hshort, hk⟩ := follow_cons_eq_ok.1 hlater
    rw [follow_nil_eq_ok, enter_of_isName hname] at hk
    subst hk
    have hl := hrooted _ hstands
    rw [List.dropLast_concat] at hl
    refine follow_cons_eq_ok.2 ⟨hl, hshort, ?_⟩
    rw [enter_of_isName hname, follow_nil_eq_ok]
  | cons step v ih =>
    rw [List.mem_cons, not_or] at hdown
    obtain ⟨-, hshort, hrest⟩ := follow_cons_eq_ok.1 hlater
    have hnext := ih hdown.2 hrest
    refine follow_cons_eq_ok.2 ⟨?_, hshort, hnext⟩
    -- The rest of the path starts in a directory, and so does the path.
    have hdirectory : s.get? (enter l step) = some .directory := by
      cases v <;> exact (follow_cons_eq_ok.1 hnext).1
    rw [enter] at hdirectory
    split at hdirectory
    · exact hdirectory
    · rw [if_neg (Ne.symm hdown.1)] at hdirectory
      have hl := hrooted (l ++ [step]) (by rw [hdirectory]; exact Option.some_ne_none _)
      rwa [List.dropLast_concat] at hl

/-- Where no file gives way to a directory, a path that leads somewhere later leads there already,
or something along it is missing. -/
theorem follow_of_later (hfiles : ∀ m bytes mode, s.get? m = some (.file bytes mode) →
    s'.get? m ≠ some .directory) (hlater : s'.follow l steps = .ok k) :
    s.follow l steps = .ok k ∨ s.follow l steps = .error .notFound := by
  induction steps generalizing l with
  | nil => exact .inl hlater
  | cons step rest ih =>
    obtain ⟨hl, hshort, hrest⟩ := follow_cons_eq_ok.1 hlater
    cases hnow : s.get? l with
    | none => exact .inr (follow_cons_of_none hnow step rest)
    | some e =>
      cases e with
      | file bytes mode => exact absurd hl (hfiles l bytes mode hnow)
      | directory =>
        rw [follow_cons_of_directory hnow hshort]
        exact ih hrest

/-- Only from a directory does a path lead to one. -/
theorem directory_of_follow (h : s.follow l steps = .ok k) (hk : s.get? k = some .directory) :
    s.get? l = some .directory := by
  cases steps with
  | nil =>
    rwa [follow_nil_eq_ok.1 h]
  | cons step rest => exact (follow_cons_eq_ok.1 h).1

/-- Along a path that leads to a directory, no directory is missing. -/
theorem makeDirectories_append_of_follow (h : s.follow l steps = .ok k)
    (hk : s.get? k = some .directory) (more : List String) :
    s.makeDirectories l (steps ++ more) = s.makeDirectories k more := by
  induction steps generalizing l with
  | nil =>
    rw [List.nil_append, follow_nil_eq_ok.1 h]
  | cons step rest ih =>
    obtain ⟨-, hshort, hrest⟩ := follow_cons_eq_ok.1 h
    have hnext := ih hrest
    have hdirectory := directory_of_follow hrest hk
    rw [enter] at hnext hdirectory
    rw [List.cons_append, makeDirectories]
    by_cases hidle : Path.isIdle step = true
    · rwa [if_pos hidle] at hnext ⊢
    by_cases hup : step = ".."
    · rw [if_neg hidle, if_pos hup] at hnext ⊢
      exact hnext
    · rw [if_neg hidle, if_neg hup] at hnext hdirectory ⊢
      have hname : Path.IsName step := ⟨Bool.eq_false_iff.2 hidle, hup⟩
      rw [if_neg (Nat.not_lt.2 (hshort hname)), hdirectory]
      exact hnext

/-- Nothing is to be made along a path that leads to a directory. -/
theorem makeDirectories_of_follow (h : s.follow l steps = .ok k)
    (hk : s.get? k = some .directory) : s.makeDirectories l steps = (.ok (), s) := by
  simpa [makeDirectories] using makeDirectories_append_of_follow h hk []

/-- A path leads into a directory, even where nothing stands at its end. -/
theorem Rooted.parent_of_follow (hrooted : s.Rooted) (hl : s.get? l.dropLast = some .directory)
    (h : s.follow l steps = .ok k) : s.get? k.dropLast = some .directory := by
  induction steps generalizing l with
  | nil =>
    rwa [← follow_nil_eq_ok.1 h]
  | cons step rest ih =>
    obtain ⟨hdirectory, -, hrest⟩ := follow_cons_eq_ok.1 h
    refine ih ?_ hrest
    rw [enter]
    split
    · exact hl
    split
    · exact hrooted _ (by rw [hl]; exact Option.some_ne_none _)
    · rwa [List.dropLast_concat]

end Storage

/-! ## The files below a directory -/

namespace Disk

variable {d d' : Disk} {root p q path : String} {k : Location}

/-- What it takes to locate a path. -/
theorem locate_eq_ok : d.locate path = .ok k ↔ path ≠ "" ∧ '\x00' ∉ path.toList ∧
    d.storage.follow (Storage.start d.directory path) (Path.steps path) = .ok k := by
  rw [locate, Storage.locate]
  by_cases hempty : path = ""
  · simp [hempty]
  by_cases hzero : '\x00' ∈ path.toList
  · simp [hempty, hzero]
  · simp [hempty, hzero]

/-- What stands at a path stands at its location. -/
theorem get?_eq_some {e : Entry} :
    d.get? path = some e ↔ ∃ k, d.locate path = .ok k ∧ d.storage.get? k = some e := by
  rw [get?]
  cases d.locate path <;> simp

/-- Where a path leads, its entry is that of the location. -/
theorem get?_of_locate (h : d.locate path = .ok k) : d.get? path = d.storage.get? k := by
  rw [get?, h]

/-- The location that a path below a directory leads to. -/
theorem locate_join (hp : Path.IsPlain p) :
    d.locate (Path.join root p) = .ok k ↔ '\x00' ∉ (Path.join root p).toList ∧
      d.storage.follow (Storage.start d.directory root)
        (Path.stepsTo root ++ Text.splitAt '/' p) = .ok k := by
  rw [locate_eq_ok, Storage.start, Path.isAbsolute_join hp, Path.steps_join hp]
  simp [Path.join_ne_empty hp, Storage.start]

/-- A plain path below a directory leads below the location of the directory, along its own names.
-/
theorem exists_of_locate_join (hp : Path.IsPlain p) (h : d.locate (Path.join root p) = .ok k) :
    ∃ base, d.storage.follow (Storage.start d.directory root) (Path.stepsTo root) = .ok base ∧
      k = base ++ Text.splitAt '/' p := by
  obtain ⟨base, hbase, hnames⟩ := Storage.follow_append_eq_ok.1 ((locate_join hp).1 h).2
  exact ⟨base, hbase, Storage.eq_append_of_follow hp hnames⟩

/-- Different paths below a directory lead to different locations. -/
theorem eq_of_locate_join (hp : Path.IsPlain p) (hq : Path.IsPlain q)
    (hpath : d.locate (Path.join root p) = .ok k) (hother : d.locate (Path.join root q) = .ok k) :
    p = q := by
  obtain ⟨base, hbase, hk⟩ := exists_of_locate_join hp hpath
  obtain ⟨base', hbase', hk'⟩ := exists_of_locate_join hq hother
  rw [hbase, Except.ok.injEq] at hbase'
  rw [hk, hbase'] at hk'
  exact Text.splitAt_inj (List.append_cancel_left hk')

/-- A later disk, with the same directory to work in. -/
structure Grows (d d' : Disk) : Prop where
  directory_eq : d'.directory = d.directory
  storage : d.storage.Grows d'.storage

/-- A disk that grows twice grows. -/
theorem Grows.trans {d'' : Disk} (h : d.Grows d') (h' : d'.Grows d'') : d.Grows d'' :=
  ⟨h'.directory_eq.trans h.directory_eq, fun l hl => h'.storage l (h.storage l hl)⟩

/-- A path that is located stays at its location. -/
theorem Grows.locate (h : d.Grows d') (hpath : d.locate path = .ok k) :
    d'.locate path = .ok k := by
  obtain ⟨hempty, hzero, hfollow⟩ := locate_eq_ok.1 hpath
  refine locate_eq_ok.2 ⟨hempty, hzero, ?_⟩
  rw [h.directory_eq]
  exact h.storage.follow hfollow

/-- A directory that is found stays there. -/
theorem Grows.get?_directory (h : d.Grows d') (hpath : d.get? path = some .directory) :
    d'.get? path = some .directory := by
  obtain ⟨k, hlocate, hk⟩ := get?_eq_some.1 hpath
  exact get?_eq_some.2 ⟨k, h.locate hlocate, h.storage k hk⟩

/-- The steps back to parent directories along a path to a directory lie in a part that leads
somewhere. -/
def Anchored (d : Disk) (root : String) : Prop :=
  ∃ u v l, Path.stepsTo root = u ++ v ∧ ".." ∉ v ∧
    d.storage.follow (Storage.start d.directory root) u = .ok l

/-- A path without steps back leads to one place at all times. -/
theorem anchored_of_down (h : ".." ∉ Path.stepsTo root) : d.Anchored root :=
  ⟨[], Path.stepsTo root, _, rfl, h, rfl⟩

/-- A path that leads to one place at all times does so later on. -/
theorem Anchored.of_grows (hanchored : d.Anchored root) (h : d.Grows d') : d'.Anchored root := by
  obtain ⟨u, v, l, hsteps, hdown, hu⟩ := hanchored
  refine ⟨u, v, l, hsteps, hdown, ?_⟩
  rw [h.directory_eq]
  exact h.storage.follow hu

/-- Plain paths below such a path are like it. -/
theorem Anchored.join (hanchored : d.Anchored root) (hp : Path.IsPlain p) :
    d.Anchored (Path.join root p) := by
  obtain ⟨u, v, l, hsteps, hdown, hu⟩ := hanchored
  refine ⟨u, v ++ Text.splitAt '/' p, l, ?_, ?_, ?_⟩
  · rw [Path.stepsTo_join hp, hsteps, List.append_assoc]
  · rw [List.mem_append, not_or]
    exact ⟨hdown, fun hstep => (hp _ hstep).2 rfl⟩
  · rwa [Storage.start, Path.isAbsolute_join hp]

/-- What is found along a path below a directory is what stands where the path leads later. -/
theorem Anchored.get?_eq (hanchored : d.Anchored root) (hrooted : d.storage.Rooted)
    (hgrows : d.Grows d') (hp : Path.IsPlain p) (hlater : d'.locate (Path.join root p) = .ok k) :
    d.get? (Path.join root p) = d.storage.get? k := by
  by_cases hstands : d.storage.get? k = none
  · -- A path that leads somewhere leads to the same location later.
    rw [hstands, get?]
    cases hnow : d.locate (Path.join root p) with
    | error e => rfl
    | ok k' =>
      have heq := hgrows.locate hnow
      rw [hlater, Except.ok.injEq] at heq
      rw [← heq]
      exact hstands
  · -- What stands at the location already can be reached already, as it stands in directories.
    obtain ⟨u, v, l, hsteps, hdown, hu⟩ := hanchored
    obtain ⟨front, name, hnames, hfront, hname⟩ := hp.exists_last
    obtain ⟨hzero, hfollow⟩ := (locate_join hp).1 hlater
    have hpieces : Path.stepsTo root ++ Text.splitAt '/' p = u ++ ((v ++ front) ++ [name]) := by
      rw [hsteps, hnames]
      simp only [List.append_assoc]
    rw [hpieces, Storage.follow_append_eq_ok, hgrows.directory_eq] at hfollow
    obtain ⟨l', hu', hrest⟩ := hfollow
    have hl := hgrows.storage.follow hu
    rw [hu', Except.ok.injEq] at hl
    subst hl
    have hdowns : ".." ∉ v ++ front := by
      rw [List.mem_append, not_or]
      exact ⟨hdown, fun hstep => (hfront _ hstep).2 rfl⟩
    have hnow := Storage.follow_of_rooted hrooted hdowns hname hrest hstands
    refine get?_of_locate ((locate_join hp).2 ⟨hzero, ?_⟩)
    rw [hpieces, Storage.follow_append_eq_ok]
    exact ⟨l', hu, hnow⟩

end Disk

end CliGen
