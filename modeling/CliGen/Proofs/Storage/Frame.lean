import CliGen.Proofs.Storage.Following

/-!
# What an operation leaves alone

`Disk.Keeps` tells which files may differ after a step: only those that some given paths lead to.
Directories stay, and a storage in which everything stands in a directory remains one. A chain of
operations keeps what each of them keeps, whether it succeeds or not.
-/

namespace CliGen

namespace Storage

variable {s s' s'' : Storage} {l : Location} {bytes : ByteArray} {mode : Nat}

/-- Directories stay, and so do files, except at some locations. -/
structure Keeps (s : Storage) (locations : List Location) (s' : Storage) : Prop where
  grows : s.Grows s'
  files : ∀ k, k ∉ locations → ∀ bytes mode,
    s'.get? k = some (.file bytes mode) ↔ s.get? k = some (.file bytes mode)

/-- Where nothing happens, everything is kept. -/
theorem Keeps.refl (s : Storage) (locations : List Location) : s.Keeps locations s :=
  ⟨fun _ h => h, fun _ _ _ _ => Iff.rfl⟩

/-- What is kept by one step and by the next is kept by both. -/
theorem Keeps.trans {locations : List Location} (h : s.Keeps locations s')
    (h' : s'.Keeps locations s'') : s.Keeps locations s'' :=
  ⟨fun k hk => h'.grows k (h.grows k hk),
    fun k hk bytes mode => (h'.files k hk bytes mode).trans (h.files k hk bytes mode)⟩

/-- Fewer locations may be worked on than are allowed for. -/
theorem Keeps.mono {few many : List Location} (h : s.Keeps few s') (hsubset : few ⊆ many) :
    s.Keeps many s' :=
  ⟨h.grows, fun k hk => h.files k fun hfew => hk (hsubset hfew)⟩

/-- What is no directory does not stand at the top. -/
theorem ne_top_of_get? (h : s.get? l ≠ some .directory) : l ≠ [] := by
  rintro rfl
  exact h (get?_top s)

/-- What is the same everywhere else is kept, if no directory stood at the place itself. -/
theorem keeps_of_elsewhere (h : s.get? l ≠ some .directory)
    (helsewhere : ∀ k, k ≠ l → s'.get? k = s.get? k) : s.Keeps [l] s' := by
  constructor
  · intro k hk
    have hne : k ≠ l := by
      rintro rfl
      exact h hk
    rwa [helsewhere k hne]
  · intro k hk bytes' mode'
    rw [helsewhere k (List.ne_of_not_mem_cons hk)]

/-- A file put in the place of no directory leaves everything else as it is. -/
theorem keeps_put_file (h : s.get? l ≠ some .directory) :
    s.Keeps [l] (s.put l (.file bytes mode)) := by
  refine keeps_of_elsewhere h fun k hne => ?_
  rw [get?_put s (ne_top_of_get? h), if_neg hne]

/-- A directory put where nothing stands leaves everything as it is. -/
theorem keeps_put_directory (h : s.get? l = none) : s.Keeps [] (s.put l .directory) := by
  have hne : l ≠ [] := ne_top_of_get? (s := s) (by simp [h])
  constructor
  · intro k hk
    rw [get?_put s hne]
    split
    · rfl
    · exact hk
  · intro k _ bytes' mode'
    rw [get?_put s hne]
    split
    · next heq => simp [heq, h]
    · rfl

/-- Erasing what is no directory leaves everything else as it is. -/
theorem keeps_erase (h : s.get? l ≠ some .directory) : s.Keeps [l] (s.erase l) := by
  refine keeps_of_elsewhere h fun k hne => ?_
  rw [get?_erase s (ne_top_of_get? h), if_neg hne]

/-- What is put into a directory stands in one, and what stood below a directory still does. -/
theorem Rooted.put (hs : s.Rooted) (hne : l ≠ []) (hparent : s.get? l.dropLast = some .directory)
    {e : Entry} (he : s.get? l = some .directory → e = .directory) : (s.put l e).Rooted := by
  intro k hk
  rw [get?_put s hne] at hk ⊢
  have hdirectory : s.get? k.dropLast = some .directory := by
    split at hk
    · next heq => rwa [heq]
    · exact hs k hk
  split
  · next heq => rw [he (heq ▸ hdirectory)]
  · exact hdirectory

/-- No directory is lost by erasing what is none. -/
theorem Rooted.erase (hs : s.Rooted) (h : s.get? l ≠ some .directory) : (s.erase l).Rooted := by
  intro k hk
  rw [get?_erase s (ne_top_of_get? h)] at hk ⊢
  have hdirectory : s.get? k.dropLast = some .directory := by
    split at hk
    · exact absurd rfl hk
    · exact hs k hk
  have hne : k.dropLast ≠ l := by
    rintro rfl
    exact h hdirectory
  rwa [if_neg hne]

/-! ## Operations on locations -/

/-- Files are what can be read. -/
theorem read_eq_ok : s.read l = .ok bytes ↔ ∃ mode, s.get? l = some (.file bytes mode) := by
  rw [read]
  split <;> simp [*]

/-- Writing puts a file in its place, and never in that of a directory. -/
theorem write_eq_ok (h : s.write l bytes = .ok s') :
    s.get? l ≠ some .directory ∧ ∃ mode, s' = s.put l (.file bytes mode) := by
  rw [write] at h
  split at h
  · next hnone =>
    cases h
    exact ⟨by simp [hnone], _, rfl⟩
  · cases h
  · next hfile =>
    cases h
    exact ⟨by simp [hfile], _, rfl⟩

/-- Installing puts a file of the mode asked for in its place, and succeeds unless a directory
stands there. -/
theorem install_eq_ok : s.install l bytes mode = .ok s' ↔
    s.get? l ≠ some .directory ∧ s' = s.put l (.file bytes mode) := by
  rw [install]
  split
  · next h => simp [h]
  · next h =>
    have hfree : s.get? l ≠ some .directory := fun hdirectory => h hdirectory
    simp [hfree, eq_comm]

/-- Moving a file takes it away from one place and installs it in the other. -/
theorem move_eq_ok {source target : Location} : s.move source target = .ok s' ↔
    ∃ bytes mode, s.get? source = some (.file bytes mode) ∧
      (s.erase source).install target bytes mode = .ok s' := by
  rw [move]
  split <;> simp [*]

/-- A mode can be given to a file. A directory stays as it is. -/
theorem setMode_eq_ok : s.setMode l mode = .ok s' ↔
    s.get? l = some .directory ∧ s' = s ∨
      ∃ bytes old, s.get? l = some (.file bytes old) ∧ s' = s.put l (.file bytes mode) := by
  rw [setMode]
  split <;> simp [*, eq_comm]

/-- Installing changes nothing but its place. -/
theorem keeps_install (h : s.install l bytes mode = .ok s') : s.Keeps [l] s' := by
  obtain ⟨hdirectory, rfl⟩ := install_eq_ok.1 h
  exact keeps_put_file hdirectory

/-- Moving changes nothing but the places it moves from and to. -/
theorem keeps_move {source target : Location} (h : s.move source target = .ok s') :
    s.Keeps [source, target] s' := by
  obtain ⟨bytes, mode, hsource, hinstall⟩ := move_eq_ok.1 h
  have herase := keeps_erase (s := s) (l := source) (by simp [hsource])
  exact (herase.mono (by simp)).trans ((keeps_install hinstall).mono (by simp))

/-- Setting a mode changes no other place. -/
theorem keeps_setMode (h : s.setMode l mode = .ok s') : s.Keeps [l] s' := by
  rcases setMode_eq_ok.1 h with ⟨-, rfl⟩ | ⟨bytes, old, hl, rfl⟩
  · exact Keeps.refl _ _
  · exact keeps_put_file (by simp [hl])

/-- Making directories changes no file, also where it stops halfway. -/
theorem keeps_makeDirectories {steps : List String} :
    s.Keeps [] (s.makeDirectories l steps).2 := by
  induction steps generalizing s l with
  | nil => exact Keeps.refl _ _
  | cons step rest ih =>
    rw [makeDirectories]
    split
    · exact ih
    split
    · exact ih
    split
    · exact Keeps.refl _ _
    split
    · next hmissing => exact (keeps_put_directory hmissing).trans ih
    · exact ih
    · exact Keeps.refl _ _

/-- A file installed in a directory stands in one. -/
theorem Rooted.install (hs : s.Rooted) (hparent : s.get? l.dropLast = some .directory)
    (h : s.install l bytes mode = .ok s') : s'.Rooted := by
  obtain ⟨hdirectory, rfl⟩ := install_eq_ok.1 h
  exact hs.put (ne_top_of_get? hdirectory) hparent fun h => absurd h hdirectory

/-- A file moved into a directory stands in one. -/
theorem Rooted.move (hs : s.Rooted) {source target : Location}
    (hparent : s.get? target.dropLast = some .directory) (h : s.move source target = .ok s') :
    s'.Rooted := by
  obtain ⟨bytes, mode, hsource, hinstall⟩ := move_eq_ok.1 h
  have hfile : s.get? source ≠ some .directory := by simp [hsource]
  exact (hs.erase hfile).install ((keeps_erase hfile).grows _ hparent) hinstall

/-- Setting a mode leaves the directories as they are. -/
theorem Rooted.setMode (hs : s.Rooted) (h : s.setMode l mode = .ok s') : s'.Rooted := by
  rcases setMode_eq_ok.1 h with ⟨-, rfl⟩ | ⟨bytes, old, hl, rfl⟩
  · exact hs
  · have hfile : s.get? l ≠ some .directory := by simp [hl]
    exact hs.put (ne_top_of_get? hfile) (hs l (by simp [hl])) fun h => absurd h hfile

/-- Directories are made from the top down, each in one that stands already. -/
theorem Rooted.makeDirectories (hs : s.Rooted) {steps : List String}
    (hl : s.get? l = some .directory) : (s.makeDirectories l steps).2.Rooted := by
  induction steps generalizing s l with
  | nil => exact hs
  | cons step rest ih =>
    rw [Storage.makeDirectories]
    split
    · exact ih hs hl
    split
    · exact ih hs (hs l (by rw [hl]; exact Option.some_ne_none _))
    split
    · exact hs
    split
    · next hmissing =>
      have hne : l ++ [step] ≠ [] := by simp
      refine ih (hs.put hne ?_ fun _ => rfl) ?_
      · rwa [List.dropLast_concat]
      · rw [get?_put s hne, if_pos rfl]
    · next hdirectory => exact ih hs hdirectory
    · exact hs

end Storage

/-! ## Operations on a disk -/

namespace Disk

variable {d d' d'' : Disk} {ε α β : Type} {paths : List String} {path : String}

/-- Whatever stands somewhere stands in a directory, and so does whoever works. -/
structure Sound (d : Disk) : Prop where
  rooted : d.storage.Rooted
  directory : d.storage.get? d.directory = some .directory

/-- Only files that some paths lead to differ, and no directory is gone. -/
structure Keeps (d : Disk) (paths : List String) (d' : Disk) : Prop where
  grows : d.Grows d'
  /-- No new faults come up. -/
  faults : d'.faults <:+ d.faults
  rooted : d.Sound → d'.storage.Rooted
  files : ∀ k, (∀ path ∈ paths, d'.locate path ≠ .ok k) → ∀ bytes mode,
    d'.storage.get? k = some (.file bytes mode) ↔ d.storage.get? k = some (.file bytes mode)

/-- Where nothing happens, everything is kept. -/
theorem Keeps.refl (d : Disk) (paths : List String) : d.Keeps paths d where
  grows := ⟨rfl, fun _ h => h⟩
  faults := List.suffix_rfl
  rooted h := h.rooted
  files _ _ _ _ := Iff.rfl

/-- A disk stays sound. -/
theorem Keeps.sound (h : d.Keeps paths d') (hd : d.Sound) : d'.Sound :=
  ⟨h.rooted hd, by rw [h.grows.directory_eq]; exact h.grows.storage _ hd.directory⟩

/-- What is kept by one step and by the next is kept by both. -/
theorem Keeps.trans (h : d.Keeps paths d') (h' : d'.Keeps paths d'') : d.Keeps paths d'' where
  grows := h.grows.trans h'.grows
  faults := h'.faults.trans h.faults
  rooted hd := h'.rooted (h.sound hd)
  files k hk bytes mode := by
    -- A path that leads somewhere in between leads there in the end.
    have hbetween : ∀ path ∈ paths, d'.locate path ≠ .ok k :=
      fun path hpath hlocate => hk path hpath (h'.grows.locate hlocate)
    exact (h'.files k hk bytes mode).trans (h.files k hbetween bytes mode)

/-- Fewer paths may be worked on than are allowed for. -/
theorem Keeps.mono {few many : List String} (h : d.Keeps few d') (hsubset : few ⊆ many) :
    d.Keeps many d' where
  grows := h.grows
  faults := h.faults
  rooted := h.rooted
  files k hk := h.files k fun path hpath => hk path (hsubset hpath)

/-- A change of the storage is one of the disk, if paths lead to the locations that it is made at.
-/
theorem Keeps.of_storage {s : Storage} {locations : List Location}
    (hkeeps : d.storage.Keeps locations s)
    (hpaths : ∀ k ∈ locations, ∃ path ∈ paths, d.locate path = .ok k)
    (hrooted : d.Sound → s.Rooted) : d.Keeps paths { d with storage := s } where
  grows := ⟨rfl, hkeeps.grows⟩
  faults := List.suffix_rfl
  rooted := hrooted
  files k hk := by
    refine hkeeps.files k fun hlocation => ?_
    obtain ⟨path, hpath, hlocate⟩ := hpaths k hlocation
    have hgrows : d.Grows { d with storage := s } := ⟨rfl, hkeeps.grows⟩
    exact hk path hpath (hgrows.locate hlocate)

/-- A path leads into a directory. -/
theorem Sound.parent_of_locate (hd : d.Sound) {k : Location} (h : d.locate path = .ok k) :
    d.storage.get? k.dropLast = some .directory := by
  refine hd.rooted.parent_of_follow ?_ (locate_eq_ok.1 h).2.2
  rw [Storage.start]
  split
  · exact Storage.get?_top _
  · exact hd.rooted _ (by rw [hd.directory]; exact Option.some_ne_none _)

/-- Which faults are still to come does not matter to what is kept. -/
theorem Keeps.with_faults {faults : List (Option SystemError)} (h : d.Keeps paths d')
    (hfaults : faults <:+ d.faults) : d.Keeps paths { d' with faults } :=
  { h with
    grows := ⟨h.grows.directory_eq, h.grows.storage⟩
    faults := hfaults }

/-- An operation that always leaves a storage keeps what that storage keeps, whether or not a fault
meets it. -/
theorem keeps_perform {operation : Disk → Except SystemError α × Storage}
    (h : d.Keeps paths { d with storage := (operation d).2 }) :
    d.Keeps paths ((perform operation).run d).2 := by
  have hfaults : d.faults.tail <:+ d.faults := List.tail_suffix _
  change d.Keeps paths (perform operation d).2
  unfold perform
  split
  · exact (Keeps.refl d paths).with_faults hfaults
  · exact h.with_faults hfaults

/-- An operation that may fail has to be looked at where it succeeds only. -/
theorem keeps_attempt {operation : Disk → Except SystemError (α × Storage)}
    (h : ∀ a s, operation d = .ok (a, s) → d.Keeps paths { d with storage := s }) :
    d.Keeps paths ((attempt operation).run d).2 := by
  refine keeps_perform ?_
  cases hoperation : operation d with
  | error e => exact Keeps.refl d paths
  | ok answer => exact h answer.1 answer.2 hoperation

/-- Without faults an operation is what the storage makes of it. -/
theorem perform_of_faults {operation : Disk → Except SystemError α × Storage}
    (h : d.faults = []) :
    (perform operation).run d = ((operation d).1, { d with storage := (operation d).2 }) := by
  obtain ⟨s, directory, faults⟩ := d
  cases h
  rfl

/-- Without faults an operation changes the storage if it succeeds, and nothing if it fails. -/
theorem attempt_of_faults {operation : Disk → Except SystemError (α × Storage)}
    (h : d.faults = []) : (attempt operation).run d = match operation d with
      | .ok (a, s) => (.ok a, { d with storage := s })
      | .error e => (.error e, d) := by
  refine (perform_of_faults h).trans ?_
  cases operation d <;> rfl

/-- A chain succeeds if its first step does and the next one does with its answer. -/
theorem bind_eq_ok {ε : Type} {x : Except ε α} {f : α → Except ε β} {b : β} :
    (x >>= f) = .ok b ↔ ∃ a, x = .ok a ∧ f a = .ok b := by
  cases x with
  | error e => simp [bind, Except.bind]
  | ok a => simp [bind, Except.bind]

/-- A change at the location of a path works on that path. -/
theorem keeps_change {f : Storage → Location → Except SystemError Storage}
    (hkeeps : ∀ l s, d.locate path = .ok l → f d.storage l = .ok s → d.storage.Keeps [l] s)
    (hrooted : ∀ l s, d.storage.Rooted → d.storage.get? l.dropLast = some .directory →
      f d.storage l = .ok s → s.Rooted) :
    d.Keeps [path] ((change path f).run d).2 := by
  refine keeps_attempt fun _ s h => ?_
  obtain ⟨l, hlocate, h⟩ := bind_eq_ok.1 h
  obtain ⟨s', hs, h⟩ := bind_eq_ok.1 h
  obtain rfl : s' = s := congrArg Prod.snd (Except.ok.inj h)
  refine .of_storage (hkeeps l s' hlocate hs) ?_ fun hd =>
    hrooted l s' hd.rooted (hd.parent_of_locate hlocate) hs
  simpa using hlocate

/-- What can be read stays the same away from the paths that are worked on. -/
theorem Keeps.read_eq_ok (h : d.Keeps paths d') {l : Location} {bytes : ByteArray}
    (hl : ∀ path ∈ paths, d'.locate path ≠ .ok l) :
    d'.storage.read l = .ok bytes ↔ d.storage.read l = .ok bytes := by
  simp only [Storage.read_eq_ok, h.files l hl]

/-- Two paths do not lead to the same location. -/
def Apart (d : Disk) (path other : String) : Prop :=
  ∀ k, d.locate path = .ok k → d.locate other ≠ .ok k

/-- Different paths below one directory lead to different locations. -/
theorem apart_join {root p q : String} (hp : Path.IsPlain p) (hq : Path.IsPlain q) (hne : p ≠ q)
    (d : Disk) : d.Apart (Path.join root p) (Path.join root q) :=
  fun _ hpath hother => hne (eq_of_locate_join hp hq hpath hother)

/-- A file stays as it is if no path to something else leads to it. -/
theorem Keeps.get?_file (h : d.Keeps paths d') {bytes : ByteArray} {mode : Nat}
    (hfile : d.get? path = some (.file bytes mode)) (hapart : ∀ p ∈ paths, d'.Apart path p) :
    d'.get? path = some (.file bytes mode) := by
  obtain ⟨k, hlocate, hk⟩ := get?_eq_some.1 hfile
  have hlater := h.grows.locate hlocate
  refine get?_eq_some.2 ⟨k, hlater, (h.files k ?_ bytes mode).2 hk⟩
  exact fun p hp => hapart p hp k hlater

/-- No file comes up below a directory but at the paths that are worked on. -/
theorem Keeps.get?_file_iff (h : d.Keeps paths d') {root p : String} (hanchored : d.Anchored root)
    (hrooted : d.storage.Rooted) (hp : Path.IsPlain p)
    (hapart : ∀ q ∈ paths, d'.Apart (Path.join root p) q) {bytes : ByteArray} {mode : Nat} :
    d'.get? (Path.join root p) = some (.file bytes mode) ↔
      d.get? (Path.join root p) = some (.file bytes mode) := by
  constructor
  · intro hfile
    obtain ⟨k, hlater, hk⟩ := get?_eq_some.1 hfile
    rw [hanchored.get?_eq hrooted h.grows hp hlater]
    exact (h.files k (fun q hq => hapart q hq k hlater) bytes mode).1 hk
  · exact fun hfile => h.get?_file hfile hapart

/-! ## Chains of operations -/

/-- A chain keeps what its first step keeps and, if that one succeeds, the next one too. -/
theorem keeps_bind {s : ExceptT ε (StateM Disk) α} {f : α → ExceptT ε (StateM Disk) β}
    (hs : d.Keeps paths (d.after s))
    (hf : ∀ a, d.outcome s = .ok a → (d.after s).Keeps paths ((d.after s).after (f a))) :
    d.Keeps paths (d.after (s >>= f)) := by
  cases h : d.outcome s with
  | error e => rwa [after_bind_of_error h]
  | ok a =>
    rw [after_bind_of_ok h]
    exact hs.trans (hf a h)

/-- A step with a handler keeps what both of them keep. -/
theorem keeps_tryCatch {s : ExceptT ε (StateM Disk) α} {handle : ε → ExceptT ε (StateM Disk) α}
    (hs : d.Keeps paths (d.after s))
    (hhandle : ∀ e, (d.after s).Keeps paths ((d.after s).after (handle e))) :
    d.Keeps paths (d.after (tryCatch s handle)) := by
  rw [after, run_tryCatch]
  cases d.outcome s with
  | error e => exact hs.trans (hhandle e)
  | ok a => exact hs

end Disk

end CliGen
