import CliGen.Proofs.Storage.Frame

/-!
# Operations on a disk

Every operation keeps all files but those at the paths that it is about. Where it succeeds, what it
is about stands there. Without faults, operations below a directory that exists do succeed.
-/

namespace CliGen

namespace Disk

variable {d : Disk} {α : Type} {path : String}

/-! ## What the operations keep -/

/-- Reading changes no file. -/
theorem keeps_read : d.Keeps [] ((Files.read path : StateM Disk _).run d).2 := by
  refine keeps_attempt fun bytes s h => ?_
  obtain ⟨l, -, h⟩ := bind_eq_ok.1 h
  obtain ⟨bytes', -, h⟩ := bind_eq_ok.1 h
  obtain rfl : d.storage = s := congrArg Prod.snd (Except.ok.inj h)
  exact Keeps.refl d []

/-- Making directories changes no file. -/
theorem keeps_makeDirectories :
    d.Keeps [] ((Files.makeDirectories path : StateM Disk _).run d).2 := by
  refine keeps_perform ?_
  split
  · exact Keeps.refl d []
  refine .of_storage Storage.keeps_makeDirectories (by simp) fun hd =>
    hd.rooted.makeDirectories ?_
  rw [Storage.start]
  split
  · exact Storage.get?_top _
  · exact hd.directory

/-- Moving changes the files of two paths at most. -/
theorem keeps_move {source target : String} :
    d.Keeps [source, target] ((Files.move source target : StateM Disk _).run d).2 := by
  refine keeps_attempt fun _ s h => ?_
  obtain ⟨l, hl, h⟩ := bind_eq_ok.1 h
  obtain ⟨k, hk, h⟩ := bind_eq_ok.1 h
  obtain ⟨s', hs, h⟩ := bind_eq_ok.1 h
  obtain rfl : s' = s := congrArg Prod.snd (Except.ok.inj h)
  refine .of_storage (Storage.keeps_move hs) ?_ fun hd =>
    hd.rooted.move (hd.parent_of_locate hk) hs
  simp [hl, hk]

/-- Making a file executable changes that file only. -/
theorem keeps_makeExecutable :
    d.Keeps [path] ((Files.makeExecutable path : StateM Disk _).run d).2 :=
  keeps_change (fun _ _ _ h => Storage.keeps_setMode h) fun _ _ hs _ h => hs.setMode h

/-- Beginning a draft changes no file. -/
theorem keeps_draft : d.Keeps [] ((Files.draft path : StateM Disk _).run d).2 := by
  refine keeps_attempt fun draft s h => ?_
  split at h
  · obtain rfl : d.storage = s := congrArg Prod.snd (Except.ok.inj h)
    exact Keeps.refl d []
  · cases h
  · cases h

/-- Filling a draft changes no file. -/
theorem keeps_fill {draft : Draft} {bytes : ByteArray} :
    d.Keeps [] ((Files.fill (m := StateM Disk) draft bytes).run d).2 := by
  refine keeps_attempt fun _ s h => ?_
  obtain rfl : d.storage = s := congrArg Prod.snd (Except.ok.inj h)
  exact Keeps.refl d []

/-- Making a draft executable changes no file. -/
theorem keeps_makeDraftExecutable {draft : Draft} :
    d.Keeps [] ((Files.makeDraftExecutable (m := StateM Disk) draft).run d).2 := by
  refine keeps_attempt fun _ s h => ?_
  obtain rfl : d.storage = s := congrArg Prod.snd (Except.ok.inj h)
  exact Keeps.refl d []

/-- Only putting a draft in its place changes the file there. -/
theorem keeps_persist {draft : Draft} :
    d.Keeps [path] ((Files.persist (m := StateM Disk) draft path).run d).2 :=
  keeps_change (fun _ _ _ h => Storage.keeps_install h) fun _ _ hs hparent h =>
    hs.install hparent h

/-- Writing changes the file of its path only. -/
theorem keeps_write {bytes : ByteArray} :
    d.Keeps [path] ((Files.write path bytes : StateM Disk _).run d).2 := by
  refine keeps_change (fun l s _ h => ?_) fun l s hs hparent h => ?_
  · obtain ⟨hfree, mode, rfl⟩ := Storage.write_eq_ok h
    exact Storage.keeps_put_file hfree
  · obtain ⟨hfree, mode, rfl⟩ := Storage.write_eq_ok h
    exact hs.put (Storage.ne_top_of_get? hfree) hparent fun h => absurd h hfree

/-! ## What the operations do -/

/-- An operation is refused, or does what the storage makes of it. -/
theorem attempt_cases (d : Disk) (operation : Disk → Except SystemError (α × Storage)) :
    ((attempt operation).run d).2.storage = d.storage ∨
      ∃ a s, operation d = .ok (a, s) ∧ ((attempt operation).run d).1 = .ok a ∧
        ((attempt operation).run d).2.storage = s := by
  rw [attempt, StateT.run]
  unfold perform
  split
  · exact .inl rfl
  · cases hoperation : operation d with
    | error e => exact .inl (by simp only [hoperation])
    | ok answer => exact .inr ⟨answer.1, answer.2, rfl, by simp only [hoperation], by
        simp only [hoperation]⟩

/-- A change leaves the storage as it was, or as the change makes it at the location of the path. -/
theorem change_cases (d : Disk) (path : String)
    (f : Storage → Location → Except SystemError Storage) :
    ((change path f).run d).2.storage = d.storage ∨
      ∃ k s, d.locate path = .ok k ∧ f d.storage k = .ok s ∧
        ((change path f).run d).2.storage = s := by
  rcases attempt_cases d (fun d => do
    let s ← f d.storage (← d.locate path)
    return ((), s)) with hsame | ⟨_, s, hoperation, -, hstorage⟩
  · exact .inl hsame
  · obtain ⟨k, hlocate, hchange⟩ := bind_eq_ok.1 hoperation
    obtain ⟨s', hs, hpair⟩ := bind_eq_ok.1 hchange
    obtain rfl : s' = s := congrArg Prod.snd (Except.ok.inj hpair)
    exact .inr ⟨k, s', hlocate, hs, hstorage⟩

/-- An operation leaves a storage as it is if it answers with the same storage. -/
theorem storage_attempt {operation : Disk → Except SystemError (α × Storage)}
    (h : ∀ a s, operation d = .ok (a, s) → s = d.storage) :
    ((attempt operation).run d).2.storage = d.storage := by
  rcases attempt_cases d operation with hsame | ⟨a, s, hoperation, -, hstorage⟩
  · exact hsame
  · rw [hstorage]
    exact h a s hoperation

/-- Reading leaves the storage as it was. -/
theorem storage_read : ((Files.read path : StateM Disk _).run d).2.storage = d.storage := by
  refine storage_attempt fun bytes s h => ?_
  obtain ⟨l, -, h⟩ := bind_eq_ok.1 h
  obtain ⟨bytes', -, h⟩ := bind_eq_ok.1 h
  exact (congrArg Prod.snd (Except.ok.inj h)).symm

/-- Filling a draft leaves the storage as it was. -/
theorem storage_fill (draft : Draft) (bytes : ByteArray) :
    ((Files.fill (m := StateM Disk) draft bytes).run d).2.storage = d.storage :=
  storage_attempt fun _ _ h => (congrArg Prod.snd (Except.ok.inj h)).symm

/-- Making a draft executable leaves the storage as it was. -/
theorem storage_makeDraftExecutable (draft : Draft) :
    ((Files.makeDraftExecutable (m := StateM Disk) draft).run d).2.storage = d.storage :=
  storage_attempt fun _ _ h => (congrArg Prod.snd (Except.ok.inj h)).symm

/-- Beginning a draft leaves the storage as it was. -/
theorem storage_draft :
    ((Files.draft path : StateM Disk _).run d).2.storage = d.storage := by
  refine storage_attempt fun draft s h => ?_
  split at h
  · exact (congrArg Prod.snd (Except.ok.inj h)).symm
  · cases h
  · cases h

/-- An operation that succeeds has met no fault: its answer and its storage are the operation's own.
-/
theorem exists_of_attempt {operation : Disk → Except SystemError (α × Storage)} {a : α}
    (h : ((attempt operation).run d).1 = .ok a) : ∃ s, operation d = .ok (a, s) ∧
      ((attempt operation).run d).2.storage = s := by
  rw [attempt, StateT.run] at h ⊢
  unfold perform at h ⊢
  split at h
  · cases h
  cases hoperation : operation d with
  | error e => simp [hoperation] at h
  | ok answer =>
    obtain ⟨a', s⟩ := answer
    simp only [hoperation, Except.ok.injEq] at h ⊢
    exact ⟨s, by rw [h], rfl⟩

/-- A change that succeeds has found its location and was made there. -/
theorem exists_of_change {f : Storage → Location → Except SystemError Storage}
    (h : ((change path f).run d).1 = .ok ()) : ∃ l s, d.locate path = .ok l ∧
      f d.storage l = .ok s ∧ ((change path f).run d).2.storage = s := by
  obtain ⟨s, hoperation, hstorage⟩ := exists_of_attempt h
  obtain ⟨l, hlocate, hchange⟩ := bind_eq_ok.1 hoperation
  obtain ⟨s', hs, hpair⟩ := bind_eq_ok.1 hchange
  obtain rfl : s' = s := congrArg Prod.snd (Except.ok.inj hpair)
  exact ⟨l, s', hlocate, hs, hstorage⟩

/-- What is read is a file where the path leads. -/
theorem get?_of_read {bytes : ByteArray}
    (h : ((Files.read path : StateM Disk _).run d).1 = .ok bytes) :
    ∃ mode, d.get? path = some (.file bytes mode) := by
  obtain ⟨s, hoperation, -⟩ := exists_of_attempt h
  obtain ⟨l, hlocate, hread⟩ := bind_eq_ok.1 hoperation
  obtain ⟨bytes', hbytes, hpair⟩ := bind_eq_ok.1 hread
  obtain rfl : bytes' = bytes := congrArg Prod.fst (Except.ok.inj hpair)
  rw [get?_of_locate hlocate]
  rw [Storage.read] at hbytes
  split at hbytes
  · cases hbytes
  · cases hbytes
  · next mode hfile => exact ⟨mode, by rw [hfile, Except.ok.inj hbytes]⟩

/-- Without faults, reading tells what stands where the path leads. -/
theorem run_read (h : d.faults = []) : (Files.read path : StateM Disk _).run d =
    (d.locate path >>= d.storage.read, d) := by
  refine (attempt_of_faults h).trans ?_
  cases d.locate path with
  | error e => rfl
  | ok l => cases hread : d.storage.read l <;> simp [bind, Except.bind, hread, pure, Except.pure]

/-- What is written is found where the path leads. -/
theorem get?_of_write {bytes : ByteArray}
    (h : ((Files.write path bytes : StateM Disk _).run d).1 = .ok ()) :
    ∃ mode, ((Files.write path bytes : StateM Disk _).run d).2.get? path =
      some (.file bytes mode) := by
  obtain ⟨l, s, hl, hwrite, hstorage⟩ := exists_of_change h
  obtain ⟨hfree, mode, rfl⟩ := Storage.write_eq_ok hwrite
  refine ⟨mode, get?_eq_some.2 ⟨l, keeps_write.grows.locate hl, ?_⟩⟩
  refine (congrArg (·.get? l) hstorage).trans ?_
  rw [Storage.get?_put _ (Storage.ne_top_of_get? hfree), if_pos rfl]

/-- What is moved is found where it was moved to. -/
theorem get?_of_move {source target : String}
    (h : ((Files.move source target : StateM Disk _).run d).1 = .ok ()) :
    ∃ bytes mode, d.get? source = some (.file bytes mode) ∧
      ((Files.move source target : StateM Disk _).run d).2.get? target =
        some (.file bytes mode) := by
  obtain ⟨s, hoperation, hstorage⟩ := exists_of_attempt h
  obtain ⟨l, hl, hchange⟩ := bind_eq_ok.1 hoperation
  obtain ⟨k, hk, hchange⟩ := bind_eq_ok.1 hchange
  obtain ⟨s', hs, hpair⟩ := bind_eq_ok.1 hchange
  obtain rfl : s' = s := congrArg Prod.snd (Except.ok.inj hpair)
  obtain ⟨bytes, mode, hsource, hinstall⟩ := Storage.move_eq_ok.1 hs
  obtain ⟨hfree, rfl⟩ := Storage.install_eq_ok.1 hinstall
  refine ⟨bytes, mode, get?_eq_some.2 ⟨l, hl, hsource⟩,
    get?_eq_some.2 ⟨k, keeps_move.grows.locate hk, ?_⟩⟩
  refine (congrArg (·.get? k) hstorage).trans ?_
  rw [Storage.get?_put _ (Storage.ne_top_of_get? hfree), if_pos rfl]

/-- A draft is filled with the bytes that are given, and is otherwise the same. -/
theorem eq_of_fill {draft filled : Draft} {bytes : ByteArray}
    (h : ((Files.fill (m := StateM Disk) draft bytes).run d).1 = .ok filled) :
    filled = { draft with bytes } := by
  obtain ⟨s, hoperation, -⟩ := exists_of_attempt h
  exact (congrArg Prod.fst (Except.ok.inj hoperation)).symm

/-- A draft made executable has the same place and the same bytes. -/
theorem eq_of_makeDraftExecutable {draft ready : Draft}
    (h : ((Files.makeDraftExecutable (m := StateM Disk) draft).run d).1 = .ok ready) :
    ready = { draft with mode := Storage.executableMode } := by
  obtain ⟨s, hoperation, -⟩ := exists_of_attempt h
  exact (congrArg Prod.fst (Except.ok.inj hoperation)).symm

/-- A finished draft is found where it was put. -/
theorem get?_of_persist {draft : Draft}
    (h : ((Files.persist (m := StateM Disk) draft path).run d).1 = .ok ()) :
    ((Files.persist (m := StateM Disk) draft path).run d).2.get? path =
      some (.file draft.bytes draft.mode) := by
  obtain ⟨l, s, hl, hinstall, hstorage⟩ := exists_of_change h
  obtain ⟨hfree, rfl⟩ := Storage.install_eq_ok.1 hinstall
  refine get?_eq_some.2 ⟨l, keeps_persist.grows.locate hl, ?_⟩
  refine (congrArg (·.get? l) hstorage).trans ?_
  rw [Storage.get?_put _ (Storage.ne_top_of_get? hfree), if_pos rfl]

/-- A file that everybody may run differs in its mode only. -/
theorem get?_of_makeExecutable {bytes : ByteArray} {mode : Nat}
    (hfile : d.get? path = some (.file bytes mode))
    (h : ((Files.makeExecutable path : StateM Disk _).run d).1 = .ok ()) :
    ((Files.makeExecutable path : StateM Disk _).run d).2.get? path =
      some (.file bytes Storage.executableMode) := by
  obtain ⟨l, s, hl, hset, hstorage⟩ := exists_of_change h
  rw [get?_of_locate hl] at hfile
  have hfree : d.storage.get? l ≠ some .directory := by simp [hfile]
  rcases Storage.setMode_eq_ok.1 hset with ⟨hdirectory, -⟩ | ⟨bytes', old, hl', rfl⟩
  · exact absurd hdirectory hfree
  rw [hfile, Option.some.injEq, Entry.file.injEq] at hl'
  refine get?_eq_some.2 ⟨l, keeps_makeExecutable.grows.locate hl, ?_⟩
  refine (congrArg (·.get? l) hstorage).trans ?_
  rw [Storage.get?_put _ (Storage.ne_top_of_get? hfree), if_pos rfl, ← hl'.1]

/-- Without faults, everybody may be let run what everybody may run already. -/
theorem run_makeExecutable_of_executable (hfaults : d.faults = []) {bytes : ByteArray}
    (hfile : d.get? path = some (.file bytes Storage.executableMode)) :
    ((Files.makeExecutable path : StateM Disk _).run d).1 = .ok () ∧
      ∀ k, ((Files.makeExecutable path : StateM Disk _).run d).2.storage.get? k =
        d.storage.get? k := by
  obtain ⟨l, hl, hentry⟩ := get?_eq_some.1 hfile
  have hset : d.storage.setMode l Storage.executableMode =
      .ok (d.storage.put l (.file bytes Storage.executableMode)) := by
    rw [Storage.setMode, hentry]
  have hrun : (Files.makeExecutable path : StateM Disk _).run d =
      (.ok (), { d with storage := d.storage.put l (.file bytes Storage.executableMode) }) := by
    refine (attempt_of_faults hfaults).trans ?_
    simp [hl, hset, bind, Except.bind, pure, Except.pure]
  rw [hrun]
  refine ⟨rfl, fun k => ?_⟩
  rw [Storage.get?_put _ (Storage.ne_top_of_get? (s := d.storage) (by simp [hentry]))]
  split
  · next heq => rw [heq, hentry]
  · rfl

/-! ## Where operations succeed -/

/-- Nothing is to be made where the directory stands already. -/
theorem run_makeDirectories_of_directory (hfaults : d.faults = [])
    (h : d.get? path = some .directory) :
    (Files.makeDirectories path : StateM Disk _).run d = (.ok (), d) := by
  obtain ⟨k, hlocate, hk⟩ := get?_eq_some.1 h
  obtain ⟨-, hzero, hfollow⟩ := locate_eq_ok.1 hlocate
  refine (perform_of_faults hfaults).trans ?_
  rw [if_neg (by simpa using hzero), Storage.makeDirectories_of_follow hfollow hk]

/-- A draft can be begun in any directory that stands. -/
theorem run_draft_of_directory (hfaults : d.faults = []) (hne : path ≠ "")
    (h : d.get? path = some .directory) :
    (Files.draft path : StateM Disk _).run d =
      (.ok (⟨path, .empty, Storage.privateMode⟩ : Draft), d) := by
  refine (attempt_of_faults hfaults).trans ?_
  simp [hne, h]

/-- Without faults a draft takes any bytes. -/
theorem run_fill (hfaults : d.faults = []) (draft : Draft) (bytes : ByteArray) :
    (Files.fill (m := StateM Disk) draft bytes).run d = (.ok { draft with bytes }, d) :=
  attempt_of_faults hfaults

/-- Without faults a draft is made executable. -/
theorem run_makeDraftExecutable (hfaults : d.faults = []) (draft : Draft) :
    (Files.makeDraftExecutable (m := StateM Disk) draft).run d =
      (.ok { draft with mode := Storage.executableMode }, d) :=
  attempt_of_faults hfaults

/-- A path leads to a place in a directory where a file can be put. -/
structure HasPlace (d : Disk) (directory path : String) : Prop where
  ne_empty : directory ≠ ""
  directory : d.get? directory = some .directory
  free : ∃ l, d.locate path = .ok l ∧ d.storage.get? l ≠ some .directory

/-- Without faults a draft takes a place that is free for it. -/
theorem outcome_persist (hfaults : d.faults = []) (draft : Draft) {directory : String}
    (h : d.HasPlace directory path) :
    ((Files.persist (m := StateM Disk) draft path).run d).1 = .ok () := by
  obtain ⟨l, hlocate, hfree⟩ := h.free
  have hinstall : d.storage.install l draft.bytes draft.mode = .ok _ :=
    Storage.install_eq_ok.2 ⟨hfree, rfl⟩
  have hrun : (Files.persist (m := StateM Disk) draft path).run d = (.ok (),
      { d with storage := d.storage.put l (.file draft.bytes draft.mode) }) := by
    refine (attempt_of_faults hfaults).trans ?_
    simp [hlocate, hinstall, bind, Except.bind, pure, Except.pure]
  rw [hrun]

end Disk

end CliGen
