import CliGen.Proofs.Storage.Beside

/-!
# Steps that are confined to a directory

A step is confined to a directory if it takes notice of nothing but what stands there, and changes
nothing else but directories above it that are missing (`Trail.Confines`). So are the operations on
paths below the directory, as long as what is missing along its path can be made, and chains of such
operations.
-/

namespace CliGen

/-- A name that something in a directory can have. -/
structure Path.IsEntryName (name : String) : Prop where
  isName : IsName name
  whole : '/' ∉ name.toList
  short : name.utf8ByteSize ≤ Storage.longestName

/-- The name of an entry is a plain path of one step. -/
theorem Path.IsEntryName.isPlain {name : String} (h : IsEntryName name) : IsPlain name := by
  intro step hstep
  rw [Text.splitAt_of_notMem h.whole, List.mem_singleton] at hstep
  exact hstep ▸ h.isName

/-- How the path of a directory leads there: along steps that are known to lead to a place, and from
there along steps that can be made to lead on, the last of them a name. -/
structure Trail where
  root : String
  known : List String
  place : Location
  ahead : List String
  name : String
  steps_eq : Path.stepsTo root = known ++ ahead
  canLead : Storage.CanLead ahead
  isEntryName : Path.IsEntryName name

namespace Trail

variable {t : Trail} {d d' : Disk} {ε α β : Type} {p q : String} {paths rest : List String}

/-- The path of the directory. -/
def path (t : Trail) : String := Path.join t.root t.name

/-- The location of the directory. -/
def goal (t : Trail) : Location := t.place ++ Path.names t.ahead ++ [t.name]

/-- The last step of a trail is a name, so directories can be made along all of its steps ahead. -/
theorem canLead_name (t : Trail) : Storage.CanLead (t.ahead ++ [t.name]) := by
  intro step hstep
  rcases List.mem_append.1 hstep with hstep | hstep
  · exact t.canLead step hstep
  · rw [List.mem_singleton.1 hstep]
    exact ⟨t.isEntryName.isName.2, t.isEntryName.short⟩

/-- The names of the steps ahead lead from the place to the directory. -/
theorem goal_eq (t : Trail) : t.place ++ Path.names (t.ahead ++ [t.name]) = t.goal := by
  have hname : Path.names [t.name] = [t.name] := by
    simp [Path.names, t.isEntryName.isName.1]
  rw [goal, Path.names, List.filter_append, ← Path.names, ← Path.names, hname, List.append_assoc]

/-- A path leads to the directory, and on along names. -/
structure Reaches (t : Trail) (p : String) (rest : List String) : Prop where
  absolute : Path.isAbsolute p = Path.isAbsolute t.root
  steps_eq : Path.steps p = t.known ++ (t.ahead ++ [t.name] ++ rest)
  names : ∀ step ∈ rest, Path.IsName step

/-- The path of the directory goes along the known steps and those ahead. -/
theorem steps_path (t : Trail) : Path.steps t.path = t.known ++ (t.ahead ++ [t.name]) := by
  rw [path, Path.steps_join t.isEntryName.isPlain, t.steps_eq,
    Text.splitAt_of_notMem t.isEntryName.whole, List.append_assoc]

/-- The path of the directory leads to it, and no further. -/
theorem reaches_path (t : Trail) : t.Reaches t.path [] where
  absolute := Path.isAbsolute_join t.isEntryName.isPlain t.root
  steps_eq := by rw [t.steps_path, List.append_nil]
  names := by simp

/-- A plain path below the path of the directory leads on along its names. -/
theorem reaches_join (t : Trail) (hq : Path.IsPlain q) :
    t.Reaches (Path.join t.path q) (Text.splitAt '/' q) where
  absolute := by
    rw [Path.isAbsolute_join hq, path, Path.isAbsolute_join t.isEntryName.isPlain]
  steps_eq := by
    rw [Path.steps_join hq, path, Path.stepsTo_join t.isEntryName.isPlain, t.steps_eq,
      Text.splitAt_of_notMem t.isEntryName.whole]
    simp only [List.append_assoc]
  names := hq

/-- What stands below the directory stands in the directory or in one below it. -/
theorem exists_parent (t : Trail) (hq : Path.IsPlain q) :
    ∃ parent front, Path.parent? (Path.join t.path q) = some parent ∧ parent ≠ "" ∧
      t.Reaches parent front := by
  have hreaches := t.reaches_join hq
  obtain ⟨front, name, hnames, hfront, hname⟩ := hq.exists_last
  rw [hnames] at hreaches
  -- Above the last name there is another one: the name of the directory at least.
  obtain ⟨above, last, hlast, hisName⟩ : ∃ above last, [t.name] ++ front = above ++ [last] ∧
      Path.IsName last := by
    rcases List.eq_nil_or_concat front with rfl | ⟨front, last, rfl⟩
    · exact ⟨[], t.name, rfl, t.isEntryName.isName⟩
    · exact ⟨[t.name] ++ front, last, by simp, hfront last (by simp)⟩
  have hsteps : Path.steps (Path.join t.path q) =
      (t.known ++ t.ahead ++ above) ++ [last, name] := by
    have hall := congrArg (· ++ [name]) hlast
    simp only [List.append_assoc, List.cons_append, List.nil_append] at hall
    rw [hreaches.steps_eq]
    simp only [List.append_assoc, List.singleton_append]
    rw [hall]
  obtain ⟨parent, hparent, hne, habsolute, hparentSteps⟩ :=
    Path.exists_parent hsteps hisName hname
  refine ⟨parent, front, hparent, hne, habsolute.trans hreaches.absolute, ?_, hfront⟩
  rw [hparentSteps, List.append_assoc, List.append_assoc, ← hlast]
  simp only [List.append_assoc]

/-- Paths that lead to the directory start where its root does. -/
theorem Reaches.start_eq (hp : t.Reaches p rest) (directory : Location) :
    Storage.start directory p = Storage.start directory t.root := by
  rw [Storage.start, Storage.start, hp.absolute]

/-! ## Disks along a trail -/

/-- A disk without faults on which the known steps of a trail lead to a directory. -/
structure On (t : Trail) (d : Disk) : Prop where
  faults : d.faults = []
  sound : d.Sound
  follow : d.storage.follow (Storage.start d.directory t.root) t.known = .ok t.place
  directory : d.storage.get? t.place = some .directory

/-- Steps that keep directories keep what is known of a trail. -/
theorem On.of_keeps (h : t.On d) (hkeeps : d.Keeps paths d') : t.On d' where
  faults := by
    rw [← List.suffix_nil, ← h.faults]
    exact hkeeps.faults
  sound := hkeeps.sound h.sound
  follow := by
    rw [hkeeps.grows.directory_eq]
    exact hkeeps.grows.storage.follow h.follow
  directory := hkeeps.grows.storage _ h.directory

/-- Two disks hold the same in the directory of a trail. -/
structure Beside (t : Trail) (d d' : Disk) : Prop where
  left : t.On d
  right : t.On d'
  directory_eq : d'.directory = d.directory
  storage : d.storage.Beside t.goal d'.storage

/-- A disk holds the same as itself. -/
theorem On.beside (h : t.On d) : t.Beside d d := ⟨h, h, rfl, Storage.Beside.refl _ _⟩

/-- The known steps of a path lead to the place of the trail, so the path is followed from there. -/
theorem follow_of_reaches (h : t.On d) (hp : t.Reaches p rest) :
    d.storage.follow (Storage.start d.directory p) (Path.steps p) =
      d.storage.follow t.place (t.ahead ++ [t.name] ++ rest) := by
  rw [hp.start_eq, hp.steps_eq, Storage.follow_append_of_ok h.follow]

/-- A path below the directory leads below its location. -/
theorem prefix_of_locate (h : t.On d) (hp : t.Reaches p rest) {k : Location}
    (hlocate : d.locate p = .ok k) : t.goal <+: k := by
  obtain ⟨-, -, hfollow⟩ := Disk.locate_eq_ok.1 hlocate
  rw [follow_of_reaches h hp] at hfollow
  rw [Storage.eq_append_of_follow_ahead t.canLead_name t.goal_eq hp.names hfollow]
  exact List.prefix_append _ _

/-- A path that leads below the directory is located alike on both disks. -/
theorem Beside.locate_eq (h : t.Beside d d') (hp : t.Reaches p rest) (hrest : rest ≠ []) :
    d'.locate p = d.locate p := by
  rw [Disk.locate, Disk.locate, Storage.locate, Storage.locate, follow_of_reaches h.left hp,
    follow_of_reaches h.right hp,
    h.storage.follow_eq h.left.sound.rooted t.canLead_name t.goal_eq hrest hp.names]

/-- What is found at the directory or below it is the same. -/
theorem Beside.get?_eq (h : t.Beside d d') (hp : t.Reaches p rest) : d'.get? p = d.get? p := by
  ext e
  rw [Disk.get?_eq_some, Disk.get?_eq_some]
  simp only [Disk.locate_eq_ok, follow_of_reaches h.left hp, follow_of_reaches h.right hp,
    and_assoc, exists_and_left]
  rw [h.storage.found_iff h.left.sound.rooted t.canLead_name t.goal_eq hp.names]

/-! ## Confined steps -/

/-- What a step comes to on two disks that hold the same in the directory of a trail: the same
answer, and disks that hold the same there. Elsewhere next to nothing has happened. -/
structure Same (t : Trail) (d : Disk) (y y' : α × Disk) : Prop where
  answer : y'.1 = y.1
  beside : t.Beside y.2 y'.2
  within : d.storage.Within t.goal y.2.storage

/-- A step is confined to the directory of a trail. -/
def Confines (t : Trail) (x : StateM Disk α) : Prop :=
  ∀ d d', t.Beside d d' → t.Same d (x.run d) (x.run d')

/-- Answering is confined to any directory. -/
theorem confines_pure (a : α) : t.Confines (pure a) :=
  fun _ _ h => ⟨rfl, h, Storage.Within.refl _ _⟩

/-- Chains of confined steps are confined. -/
theorem confines_bind {x : StateM Disk α} {f : α → StateM Disk β} (hx : t.Confines x)
    (hf : ∀ a, t.Confines (f a)) : t.Confines (x >>= f) := by
  intro d d' h
  obtain ⟨hanswer, hbeside, hwithin⟩ := hx d d' h
  obtain ⟨hanswer', hbeside', hwithin'⟩ := hf (x.run d).1 _ _ hbeside
  rw [StateT.run_bind, StateT.run_bind]
  change t.Same d ((f (x.run d).1).run (x.run d).2) ((f (x.run d').1).run (x.run d').2)
  rw [hanswer]
  exact ⟨hanswer', hbeside', hwithin.trans hwithin'⟩

/-- Chains of confined steps that may fail are confined. -/
theorem confines_bind_except {s : ExceptT ε (StateM Disk) α} {f : α → ExceptT ε (StateM Disk) β}
    (hs : t.Confines s.run) (hf : ∀ a, t.Confines (f a).run) : t.Confines (s >>= f).run := by
  rw [ExceptT.run_bind]
  refine confines_bind hs fun answer => ?_
  cases answer with
  | error e => exact confines_pure _
  | ok a => exact hf a

/-- A confined step with a confined handler is confined. -/
theorem confines_tryCatch {s : ExceptT ε (StateM Disk) α} {handle : ε → ExceptT ε (StateM Disk) α}
    (hs : t.Confines s.run) (hhandle : ∀ e, t.Confines (handle e).run) :
    t.Confines (tryCatch s handle).run := by
  change t.Confines (ExceptT.tryCatch s handle).run
  rw [ExceptT.tryCatch, ExceptT.run_mk]
  refine confines_bind hs fun answer => ?_
  cases answer with
  | error e => exact hhandle e
  | ok a => exact confines_pure _

/-! ## Operations -/

/-- An operation is confined if its answers agree on disks that hold the same in the directory, and
if it changes nothing outside. -/
theorem confines_perform {operation : Disk → Except SystemError α × Storage}
    (hkeeps : ∀ d, ∃ paths, Disk.Keeps d paths ((Disk.perform operation).run d).2)
    (h : ∀ d d', t.Beside d d' → (operation d').1 = (operation d).1 ∧
      (operation d).2.Beside t.goal (operation d').2 ∧
      d.storage.Within t.goal (operation d).2) : t.Confines (Disk.perform operation) := by
  intro d d' hbeside
  obtain ⟨paths, hleft⟩ := hkeeps d
  obtain ⟨paths', hright⟩ := hkeeps d'
  have hon := hbeside.left.of_keeps hleft
  have hon' := hbeside.right.of_keeps hright
  obtain ⟨hanswer, hstorage, hwithin⟩ := h d d' hbeside
  rw [Disk.perform_of_faults hbeside.left.faults] at hon ⊢
  rw [Disk.perform_of_faults hbeside.right.faults] at hon' ⊢
  exact ⟨hanswer, ⟨hon, hon', hbeside.directory_eq, hstorage⟩, hwithin⟩

/-- The same for an operation that may fail: it fails on both disks, or it succeeds on both. -/
theorem confines_attempt {operation : Disk → Except SystemError (α × Storage)}
    (hkeeps : ∀ d, ∃ paths, Disk.Keeps d paths ((Disk.attempt operation).run d).2)
    (h : ∀ d d', t.Beside d d' →
      (∃ e, operation d = .error e ∧ operation d' = .error e) ∨
        ∃ a r r', operation d = .ok (a, r) ∧ operation d' = .ok (a, r') ∧ r.Beside t.goal r' ∧
          d.storage.Within t.goal r) : t.Confines (Disk.attempt operation) := by
  refine confines_perform hkeeps fun d d' hbeside => ?_
  rcases h d d' hbeside with ⟨e, hd, hd'⟩ | ⟨a, r, r', hd, hd', hstorage, hwithin⟩
  · simp only [hd, hd']
    exact ⟨trivial, hbeside.storage, Storage.Within.refl _ _⟩
  · simp only [hd, hd']
    exact ⟨trivial, hstorage, hwithin⟩

/-- An operation that asks for nothing but what stands in the directory, and changes nothing. -/
theorem confines_answer (answer : Disk → Except SystemError α)
    (h : ∀ d d', t.Beside d d' → answer d' = answer d) :
    t.Confines (Disk.attempt fun d => (answer d).map (·, d.storage)) := by
  refine confines_attempt (fun d => ⟨[], Disk.keeps_attempt fun a s hoperation => ?_⟩)
    fun d d' hbeside => ?_
  · cases hanswer : answer d with
    | error e =>
      rw [hanswer] at hoperation
      cases hoperation
    | ok a' =>
      rw [hanswer] at hoperation
      cases hoperation
      exact Disk.Keeps.refl d []
  · rw [h d d' hbeside]
    cases answer d with
    | error e => exact .inl ⟨e, rfl, rfl⟩
    | ok a => exact .inr ⟨a, _, _, rfl, rfl, hbeside.storage, Storage.Within.refl _ _⟩

/-- A change at one location is confined if the location lies below the directory and the change
agrees there. -/
theorem confines_change {f : Storage → Location → Except SystemError Storage}
    (hp : t.Reaches p rest) (hrest : rest ≠ [])
    (hkeeps : ∀ d, ∃ paths, Disk.Keeps d paths ((Disk.change p f).run d).2)
    (h : ∀ s s' k, s.Beside t.goal s' → t.goal <+: k →
      Storage.Alike s t.goal (f s k) (f s' k)) : t.Confines (Disk.change p f) := by
  refine confines_attempt hkeeps fun d d' hbeside => ?_
  rw [hbeside.locate_eq hp hrest]
  cases hlocate : d.locate p with
  | error e => exact .inl ⟨e, rfl, rfl⟩
  | ok k =>
    have halike := h _ _ k hbeside.storage (prefix_of_locate hbeside.left hp hlocate)
    simp only [bind, Except.bind, pure, Except.pure]
    generalize f d.storage k = x, f d'.storage k = x' at halike ⊢
    cases halike with
    | refused e => exact .inl ⟨e, rfl, rfl⟩
    | done hstorage hwithin => exact .inr ⟨(), _, _, rfl, rfl, hstorage, hwithin⟩

section

variable (hp : t.Reaches p rest)
include hp

/-- Reading a file below the directory. -/
theorem confines_read (hrest : rest ≠ []) :
    t.Confines (Files.read p : StateM Disk (Except SystemError ByteArray)) := by
  have hread : (Files.read p : StateM Disk (Except SystemError ByteArray)) =
      Disk.attempt fun d => (d.locate p >>= d.storage.read).map (·, d.storage) := by
    refine congrArg Disk.attempt (funext fun d => ?_)
    cases d.locate p with
    | error e => rfl
    | ok k => rfl
  rw [hread]
  refine confines_answer _ fun d d' h => ?_
  rw [h.locate_eq hp hrest]
  cases hlocate : d.locate p with
  | error e => rfl
  | ok k =>
    change d'.storage.read k = d.storage.read k
    rw [Storage.read, Storage.read, h.storage.below k (prefix_of_locate h.left hp hlocate)]

/-- Making the directories down to one at or below the directory. -/
theorem confines_makeDirectories :
    t.Confines (Files.makeDirectories p : StateM Disk (Except SystemError Unit)) := by
  refine confines_perform (fun d => ⟨[], Disk.keeps_makeDirectories⟩) fun d d' h => ?_
  have hsteps (d : Disk) (h : t.On d) :
      d.storage.makeDirectories (Storage.start d.directory p) (Path.steps p) =
        d.storage.makeDirectories t.place (t.ahead ++ [t.name] ++ rest) := by
    rw [hp.start_eq, hp.steps_eq,
      Storage.makeDirectories_append_of_follow h.follow h.directory]
  split
  · exact ⟨rfl, h.storage, Storage.Within.refl _ _⟩
  · rw [hsteps d h.left, hsteps d' h.right]
    exact h.storage.makeDirectories t.canLead_name t.goal_eq hp.names

/-- Making a file below the directory executable. -/
theorem confines_makeExecutable (hrest : rest ≠ []) :
    t.Confines (Files.makeExecutable p : StateM Disk (Except SystemError Unit)) :=
  confines_change hp hrest (fun _ => ⟨[p], Disk.keeps_makeExecutable⟩)
    fun _ _ _ h hk => h.setMode hk _

/-- Putting a draft in its place below the directory. -/
theorem confines_persist (hrest : rest ≠ []) (draft : Disk.Draft) :
    t.Confines (Files.persist (m := StateM Disk) draft p) :=
  confines_change hp hrest (fun _ => ⟨[p], Disk.keeps_persist⟩)
    fun _ _ _ h hk => h.install hk _ _

/-- Beginning a draft at or below the directory. -/
theorem confines_draft (hne : p ≠ "") :
    t.Confines (Files.draft p : StateM Disk (Except SystemError Disk.Draft)) := by
  refine confines_attempt (fun d => ⟨[], Disk.keeps_draft⟩) fun d d' h => ?_
  rw [if_neg (by simpa using hne), h.get?_eq hp]
  cases d.get? p with
  | none => exact .inl ⟨_, rfl, rfl⟩
  | some entry =>
    cases entry with
    | file bytes mode => exact .inl ⟨_, rfl, rfl⟩
    | directory => exact .inr ⟨_, _, _, rfl, rfl, h.storage, Storage.Within.refl _ _⟩

/-- Moving a file from one place below the directory to another. -/
theorem confines_move {target : String} {rest' : List String} (hrest : rest ≠ [])
    (htarget : t.Reaches target rest') (hrest' : rest' ≠ []) :
    t.Confines (Files.move p target : StateM Disk (Except SystemError Unit)) := by
  refine confines_attempt (fun d => ⟨[p, target], Disk.keeps_move⟩) fun d d' h => ?_
  rw [h.locate_eq hp hrest, h.locate_eq htarget hrest']
  cases hlocate : d.locate p with
  | error e => exact .inl ⟨e, rfl, rfl⟩
  | ok l =>
    cases hlocate' : d.locate target with
    | error e => exact .inl ⟨e, rfl, rfl⟩
    | ok k =>
      have halike := h.storage.move (prefix_of_locate h.left hp hlocate)
        (prefix_of_locate h.left htarget hlocate')
      simp only [bind, Except.bind, pure, Except.pure]
      generalize d.storage.move l k = x, d'.storage.move l k = x' at halike ⊢
      cases halike with
      | refused e => exact .inl ⟨e, rfl, rfl⟩
      | done hstorage hwithin => exact .inr ⟨(), _, _, rfl, rfl, hstorage, hwithin⟩

end

/-- Filling a draft, which has no place yet. -/
theorem confines_fill (draft : Disk.Draft) (bytes : ByteArray) :
    t.Confines (Files.fill (m := StateM Disk) draft bytes) :=
  confines_answer (fun _ => .ok { draft with bytes }) fun _ _ _ => rfl

/-- Making a draft executable, which has no place yet. -/
theorem confines_makeDraftExecutable (draft : Disk.Draft) :
    t.Confines (Files.makeDraftExecutable (m := StateM Disk) draft) :=
  confines_answer (fun _ => .ok { draft with mode := Storage.executableMode })
    fun _ _ _ => rfl

end Trail

end CliGen
