import CliGen.Proofs.Generation.Runs
import CliGen.Proofs.Target.HookPlaces

/-!
# Files that belong to the user

A hook file that exists keeps its content and its mode, whatever is generated around it: in any
later storage that runs pass through it is as it was (`Run.hookFile_stays`).

Whether a hook file exists is settled before the first file of a target is written. So the steps
back to parent directories along the path of the output directory have to lie in a part that exists
by then (`Run.Ready`). Where they do not, the hook file can be lost (`Run.hookFile_lost_beyond`).
-/

namespace CliGen

/-! ## Hook files while files are written -/

/-- The file at a location stays as it is. -/
def Storage.Stays (l : Location) (s s' : Storage) : Prop :=
  ∀ bytes mode, s.get? l = some (.file bytes mode) → s'.get? l = some (.file bytes mode)

/-- Where nothing happens, a file stays. -/
theorem Storage.Stays.refl (l : Location) (s : Storage) : s.Stays l s := fun _ _ h => h

/-- A file that stays by each of two steps stays by both. -/
theorem Storage.Stays.trans {l : Location} {s s' s'' : Storage} (h : s.Stays l s')
    (h' : s'.Stays l s'') : s.Stays l s'' :=
  fun bytes mode hfile => h' bytes mode (h bytes mode hfile)

/-- A location with the name of a hook file. -/
def Location.IsHookFile (l : Location) : Prop := l.getLastD "" ∈ hookFileNames

namespace Writer

variable {d : Disk} {w : Writer} {directory : String} {files before after : List Artifact}
  {a : Artifact} {l : Location}

/-- A path that leads to the location of a hook file has the name of one. -/
theorem lastName_of_locate {p : String} (hp : Path.IsPlain p)
    (h : d.locate (Path.join directory p) = .ok l) : Path.lastName p = l.getLastD "" := by
  obtain ⟨base, -, rfl⟩ := Disk.exists_of_locate_join hp h
  obtain ⟨front, name, hnames, -⟩ := hp.exists_last
  rw [Path.lastName, hnames, ← List.append_assoc, List.getLastD_concat, List.getLastD_concat]

/-- No backup has the name of a hook file. -/
theorem lastName_backup (p : String) : Path.lastName (p ++ ".bak") ∉ hookFileNames := by
  have hnone : '/' ∉ ".bak".toList := by decide
  obtain ⟨front, name, -, hbackup⟩ := Text.splitAt_append hnone p
  rw [Path.lastName, hbackup, List.getLastD_concat]
  exact backup_notMem_hookFileNames name

/-- No backup leads to the location of a hook file. -/
theorem backup_apart {p : String} (hp : Path.IsPlain p) (hl : l.IsHookFile) :
    d.locate (backupPath (Path.join directory p)) ≠ .ok l := by
  rw [Path.backupPath_join hp]
  intro hlocate
  refine lastName_backup p ?_
  rw [lastName_of_locate hp.backup hlocate]
  exact hl

/-- **One more file that is written leaves the hook files alone.** Only a hook file that was not
found is written, and then nothing stands where it goes. -/
theorem stays_writeAll_concat (hrooted : d.storage.Rooted) (hanchored : d.Anchored directory)
    (hfiles : Artifact.Deliverable files)
    (hsplit : ((Merged.below directory files : StateM Disk Merged).run d).1.artifacts =
      before ++ a :: after) (hl : l.IsHookFile) :
    (d.after (w.writeAll directory before)).storage.Stays l
      (d.after (w.writeAll directory (before ++ [a]))).storage := by
  have hmerged : (before ++ a :: after).Sublist files :=
    hsplit ▸ Merged.sublist_below d directory files
  have hplain : ∀ b ∈ before ++ a :: after, Path.IsPlain b.path := fun b hb =>
    Path.isPlain_of_validatePath (hfiles.validPath b (hmerged.subset hb))
  have hnew : ∀ b ∈ before, b.path ≠ a.path := by
    have hnodup := (hmerged.map (·.path)).nodup hfiles.nodup_paths
    rw [List.map_append, List.map_cons, List.nodup_append] at hnodup
    exact fun b hb => hnodup.2.2 _ (List.mem_map_of_mem hb) _ List.mem_cons_self
  obtain ⟨ha, hfree⟩ := Merged.of_mem_below (a := a) (by rw [hsplit]; simp)
  have hap := hplain a (by simp)
  rw [after_writeAll_concat]
  split
  · intro bytes mode hfile
    have hkeeps : (d.after (w.writeAll directory before)).Keeps _
        ((d.after (w.writeAll directory before)).after (w.writeBelow directory a)) :=
      keeps_writeBelow
    refine (hkeeps.files l (fun q hq hlocate => ?_) bytes mode).2 hfile
    rcases List.mem_cons.1 hq with rfl | hq
    · -- The artifact is a hook file, so nothing was found at its path.
      have hkind : a.kind = .hookStub := by
        refine (hfiles.toldByName a ha).2 ?_
        rw [lastName_of_locate hap hlocate]
        exact hl
      have hnothing := hanchored.get?_eq hrooted (keeps_writeAll.grows.trans hkeeps.grows) hap
        hlocate
      rw [hfree hkind] at hnothing
      -- Nor was anything put there by the files before it.
      refine absurd ((keeps_writeAll.files l (fun p hp hearlier => ?_) bytes mode).1 hfile)
        (by simp [← hnothing])
      obtain ⟨b, hb, rfl | rfl⟩ := mem_concerned.1 hp
      · exact hnew b hb (Disk.eq_of_locate_join (hplain b (List.mem_append_left _ hb)) hap
          (hkeeps.grows.locate hearlier) hlocate)
      · exact backup_apart (hplain b (List.mem_append_left _ hb)) hl hearlier
    · obtain ⟨_, _, _, _, _, rfl⟩ := backup?_eq_some.1 (Option.mem_toList.1 hq)
      exact backup_apart hap hl hlocate
  · exact Storage.Stays.refl l _

/-- Artifacts in a row leave a hook file as it is, wherever their writing ends. -/
theorem stays_writeAll (hrooted : d.storage.Rooted) (hanchored : d.Anchored directory)
    (hfiles : Artifact.Deliverable files) {more rest : List Artifact}
    (hsplit : ((Merged.below directory files : StateM Disk Merged).run d).1.artifacts =
      before ++ (more ++ rest)) (hl : l.IsHookFile) :
    (d.after (w.writeAll directory before)).storage.Stays l
      (d.after (w.writeAll directory (before ++ more))).storage := by
  induction more using List.reverseRecOn generalizing rest with
  | nil =>
    rw [List.append_nil]
    exact Storage.Stays.refl l _
  | append_singleton more a ih =>
    rw [List.append_assoc, List.singleton_append] at hsplit
    refine (ih hsplit).trans ?_
    rw [← List.append_assoc] at hsplit ⊢
    exact stays_writeAll_concat hrooted hanchored hfiles hsplit hl

end Writer

/-! ## Hook files while runs pass -/

namespace Run

variable {r : Run} {d : Disk} {id : String} {l : Location}

/-- While a target is delivered hook files stay. -/
theorem stays_passes (id : String) (hrooted : d.storage.Rooted) (hanchored : d.Anchored r.root)
    (hl : l.IsHookFile) : (r.passes id d).Pairwise (Storage.Stays l) ∧
      (∀ s ∈ r.passes id d, d.storage.Stays l s ∧ s.Stays l (r.deliver [id] d).storage) ∧
        d.storage.Stays l (r.deliver [id] d).storage := by
  rw [passes]
  cases hrender : Registry.builtin.render r.tree r.settings.options id with
  | error problem =>
    rw [deliver_of_error hrender]
    exact ⟨.nil, by simp, Storage.Stays.refl l _⟩
  | ok files =>
    rw [deliver_of_ok hrender]
    have hfiles := Registry.deliverable_of_render hrender
    have hbelow := hanchored.join (Registry.isPlain_of_render hrender)
    dsimp only
    generalize hwritten : ((Merged.below (Path.join r.root id) files :
      StateM Disk Merged).run d).1.artifacts = written
    -- A later moment is one at which more of the files are written.
    have hlater : ∀ n m, n ≤ m →
        (d.after (r.writer.writeAll (Path.join r.root id) (written.take n))).storage.Stays l
          (d.after (r.writer.writeAll (Path.join r.root id) (written.take m))).storage := by
      intro n m hle
      have htake := List.take_append_drop n (written.take m)
      rw [List.take_take, Nat.min_eq_left hle] at htake
      rw [← htake]
      have hsplit : written =
          written.take n ++ ((written.take m).drop n ++ written.drop m) := by
        rw [← List.append_assoc, htake, List.take_append_drop]
      exact Writer.stays_writeAll hrooted hbelow hfiles (hwritten.trans hsplit) hl
    have hstart : (d.after (r.writer.writeAll (Path.join r.root id) (written.take 0))).storage =
        d.storage := rfl
    have hend : written.take written.length = written := List.take_length
    refine ⟨?_, fun s hs => ?_, ?_⟩
    · exact List.pairwise_map.2
        (List.pairwise_lt_range.imp fun hlt => hlater _ _ (Nat.le_of_lt hlt))
    · obtain ⟨n, hn, rfl⟩ := List.mem_map.1 hs
      have hfirst := hlater 0 n (Nat.zero_le n)
      have hlast := hlater n written.length (Nat.le_of_lt_succ (List.mem_range.1 hn))
      rw [hstart] at hfirst
      rw [hend] at hlast
      exact ⟨hfirst, hlast⟩
    · have hall := hlater 0 written.length (Nat.zero_le _)
      rwa [hstart, hend] at hall

/-- While targets are delivered hook files stay. -/
theorem stays_course (targets : List String) (hd : d.Sound) (hanchored : d.Anchored r.root)
    (hl : l.IsHookFile) :
    (r.course targets d).Pairwise (Storage.Stays l) ∧
      ∀ s ∈ r.course targets d, d.storage.Stays l s ∧ s.Stays l (r.deliver targets d).storage := by
  induction targets generalizing d with
  | nil =>
    refine ⟨List.pairwise_singleton _ _, fun s hs => ?_⟩
    rw [course, List.mem_singleton] at hs
    subst hs
    exact ⟨Storage.Stays.refl l _, Storage.Stays.refl l _⟩
  | cons id targets ih =>
    obtain ⟨paths, hkeeps⟩ := exists_keeps_deliver r id d
    obtain ⟨hpairs, hpasses, hone⟩ := stays_passes id hd.rooted hanchored hl
    obtain ⟨hrest, hcourse⟩ := ih (hkeeps.sound hd) (hanchored.of_grows hkeeps.grows)
    have hdone := (hcourse _ (List.mem_of_getLast? getLast?_course)).1
    rw [course, deliver_cons r id targets]
    refine ⟨List.pairwise_append.2 ⟨hpairs, hrest, fun s hs s' hs' => ?_⟩, fun s hs => ?_⟩
    · exact (hpasses s hs).2.trans (hcourse s' hs').1
    · rcases List.mem_append.1 hs with hs | hs
      · exact ⟨(hpasses s hs).1, (hpasses s hs).2.trans hdone⟩
      · exact ⟨hone.trans (hcourse s hs).1, (hcourse s hs).2⟩

/-- A hook file that stands once stands in every later state of a history of runs. -/
theorem stays_history {runs : List Run} {s : Storage} (hrooted : s.Rooted)
    (hready : AllReady runs s) (hl : l.IsHookFile) :
    (history runs s).Pairwise (Storage.Stays l) ∧ ∀ s' ∈ history runs s, s.Stays l s' := by
  induction runs generalizing s with
  | nil =>
    refine ⟨List.pairwise_singleton _ _, fun s' hs' => ?_⟩
    rw [history, List.mem_singleton] at hs'
    rw [hs']
    exact Storage.Stays.refl l s
  | cons r runs ih =>
    obtain ⟨⟨hdirectory, hanchored⟩, hready⟩ := hready
    have hd : (r.start s).Sound := ⟨hrooted, hdirectory⟩
    obtain ⟨hpairs, hcourse⟩ := stays_course r.targets hd hanchored hl
    obtain ⟨hrest, hhistory⟩ := ih (sound_deliver hd).rooted hready
    have hdone := (hcourse _ (List.mem_of_getLast? getLast?_course)).1
    rw [history]
    refine ⟨List.pairwise_append.2 ⟨hpairs, hrest, fun s₁ hs₁ s₂ hs₂ => ?_⟩, fun s₁ hs₁ => ?_⟩
    · exact (hcourse s₁ hs₁).2.trans (hhistory s₂ hs₂)
    · rcases List.mem_append.1 hs₁ with hs₁ | hs₁
      · exact (hcourse s₁ hs₁).1
      · exact hdone.trans (hhistory s₁ hs₁)

/-- A place for a hook file: where the hook file of some tree goes for some output directory. -/
def HookPlace (l : Location) : Prop :=
  ∃ tree options id files, Registry.builtin.render tree options id = .ok files ∧
    ∃ a ∈ files, a.kind = .hookStub ∧ ∃ above, l = above ++ id :: Text.splitAt '/' a.path

/-- The places at which targets put hook files are places of hook files. -/
theorem HookPlace.isHookFile (hl : HookPlace l) : l.IsHookFile := by
  obtain ⟨tree, options, id, files, hrender, a, ha, hkind, above, rfl⟩ := hl
  have hfiles := Registry.deliverable_of_render hrender
  have hplain := Path.isPlain_of_validatePath (hfiles.validPath a ha)
  obtain ⟨front, name, hnames, -⟩ := hplain.exists_last
  have hname := (hfiles.toldByName a ha).1 hkind
  rw [Path.lastName, hnames, List.getLastD_concat] at hname
  rw [Location.IsHookFile, hnames, ← List.cons_append, ← List.append_assoc, List.getLastD_concat]
  exact hname

/-- **A hook file stays as it is.** In every sequence of runs, each with any tree, any targets, any
output directory, any settings and whatever fails on the way, a file in the place of a hook file has
the same bytes and the same mode at every later moment. A run that is cut short after an operation
is one in which all that follows fails. -/
theorem hookFile_stays {runs : List Run} {s : Storage} (hrooted : s.Rooted)
    (hready : AllReady runs s) (hl : HookPlace l) :
    (s :: history runs s).Pairwise fun s₁ s₂ => ∀ bytes mode,
      s₁.get? l = some (.file bytes mode) → s₂.get? l = some (.file bytes mode) := by
  obtain ⟨hpairs, hfirst⟩ := stays_history hrooted hready hl.isHookFile
  exact List.pairwise_cons.2 ⟨hfirst, hpairs⟩

/-- The output of somebody who wrote hooks. -/
def kept : Storage := [
  (["out"], .directory), (["out", "nodejs"], .directory), (["out", "nodejs", "src"], .directory),
  (["out", "nodejs", "src", "hooks.js"], .file "// mine\n".toUTF8 Storage.plainMode)]

/-- A run that writes a tree below a directory. -/
def delivery (tree : CommandTree) (w : Writer) (root : String) (targets : List String) : Run :=
  ⟨⟨⟨3, 2⟩, false⟩, w, tree, root, targets, [], []⟩

/-- The target for Node.js puts its hook file here. -/
theorem hookPlace_nodejs {tree : CommandTree} {options : RenderOptions} {files : List Artifact}
    (h : Registry.builtin.render tree options "nodejs" = .ok files) :
    HookPlace ["out", "nodejs", "src", "hooks.js"] := by
  have hplace : (.hookStub, "src/hooks.js") ∈ files.map (·.place) := by
    rw [Registry.nodejs_places h]
    decide
  obtain ⟨a, ha, hplace⟩ := List.mem_map.1 hplace
  obtain ⟨hkind, hpath⟩ := Prod.mk.inj hplace
  refine ⟨tree, options, "nodejs", files, h, a, ha, hkind, ["out"], ?_⟩
  rw [hpath]
  decide

/-- Everything on the disk of the example stands in a directory. -/
theorem rooted_kept : kept.Rooted := Storage.rooted_of_entries (by decide +kernel)

/-- The hooks are there after two runs, one of which writes for all targets. -/
theorem hookFile_stays_kept : ∃ tree, CommandTree.build 2 CommandTree.equipped = .ok tree ∧
    ∀ s ∈ history [delivery tree ⟨true, false⟩ "out" ["nodejs"],
        delivery tree ⟨false, false⟩ "out" ["rust", "nodejs", "python", "typescript"]] kept,
      s.get? ["out", "nodejs", "src", "hooks.js"] =
        some (.file "// mine\n".toUTF8 Storage.plainMode) := by
  obtain ⟨tree, hbuild, -, hrender⟩ := Blueprint.exists_render_equipped
  obtain ⟨files, hfiles⟩ := hrender (.javascript .plain) (by simp [Blueprint.builtin])
  have hdown : ".." ∉ Path.stepsTo "out" := by decide +kernel
  have hready : AllReady [delivery tree ⟨true, false⟩ "out" ["nodejs"],
      delivery tree ⟨false, false⟩ "out" ["rust", "nodejs", "python", "typescript"]] kept :=
    ⟨⟨Storage.get?_top _, Disk.anchored_of_down hdown⟩,
      ⟨Storage.get?_top _, Disk.anchored_of_down hdown⟩, trivial⟩
  have hstays := hookFile_stays rooted_kept hready (hookPlace_nodejs hfiles)
  exact ⟨tree, hbuild, fun s hs => (List.pairwise_cons.1 hstays).1 s hs _ _ (by decide +kernel)⟩

/-- The directory of a target, with a step back out of a directory that is missing. -/
def beyond : String := Path.join "gone/../out" "nodejs"

/-- What a run meets that writes there. -/
def missing : Disk := ⟨kept, [], []⟩

/-- The disk once the missing directory is made. -/
def made : Disk := ⟨(["gone"], .directory) :: kept, [], []⟩

/-- The disk once files of the target are written. -/
def reached (files : List Artifact) : Disk :=
  missing.after (Writer.writeAll ⟨false, false⟩ beyond files)

/-- The first file of the target is written, though nothing can be found where it goes. -/
theorem writeAll_entry {entry : Artifact} (hpath : entry.path = "cli.js") :
    ∃ report, missing.outcome (Writer.writeAll ⟨false, false⟩ beyond [entry]) = .ok report ∧
      made.Keeps [Path.join beyond "cli.js"] (reached [entry]) := by
  have hmissing : missing.locate (Path.join beyond "cli.js") = .error .notFound := by
    decide +kernel
  have hfound : missing.outcome (Writer.existing (Path.join beyond "cli.js")) = .ok none := by
    refine Writer.outcome_existing_eq_ok.2 (.inr ⟨⟨SystemError.notFound.text, ?_⟩, rfl⟩)
    rw [Disk.run_read rfl, hmissing]
    rfl
  have hparent : Path.parent? (Path.join beyond "cli.js") = some beyond := by decide +kernel
  have hmake : (Files.makeDirectories beyond : StateM Disk _).run missing = (.ok (), made) := rfl
  have hplace : made.HasPlace beyond (Path.join beyond "cli.js") :=
    ⟨by decide +kernel, by decide +kernel, ["out", "nodejs", "cli.js"], by decide +kernel,
      by decide +kernel⟩
  rw [← hpath] at hfound hparent hplace ⊢
  obtain ⟨⟨report, hall⟩, hreached⟩ := Writer.writeAll_singleton_of_hasPlace (w := ⟨false, false⟩)
    rfl rfl rfl (by rw [hpath]; rfl) hfound hparent hmake rfl hplace
  refine ⟨report, hall, ?_⟩
  rw [reached, hreached]
  exact Writer.keeps_replace

/-- The hook file is the next to be written. It can be found by then, and is replaced. -/
theorem writeAll_hooks {entry hooks : Artifact} (hentry : entry.path = "cli.js")
    (hhooks : hooks.path = "src/hooks.js") (hcontent : "// mine\n".toUTF8 ≠ hooks.content.toUTF8) :
    made.Grows (reached [entry, hooks]) ∧
      (reached [entry, hooks]).Holds (Path.join beyond hooks.path) hooks := by
  obtain ⟨report, hreport, hkeeps⟩ := writeAll_entry hentry
  have hfaults : (reached [entry]).faults = [] := Writer.faults_writeAll rfl
  have hentryPlain : Path.IsPlain "cli.js" := Path.isPlain_of_validatePath rfl
  have hhooksPlain : Path.IsPlain "src/hooks.js" := Path.isPlain_of_validatePath rfl
  -- The old file can be found now.
  have hfile : (reached [entry]).get? (Path.join beyond "src/hooks.js") =
      some (.file "// mine\n".toUTF8 Storage.plainMode) := by
    refine hkeeps.get?_file (by decide +kernel) fun p hp => ?_
    rw [List.mem_singleton.1 hp]
    exact Disk.apart_join hhooksPlain hentryPlain (by decide) _
  have hfound := Writer.outcome_existing_of_get? hfaults hfile
  have hparent : Path.parent? (Path.join beyond "src/hooks.js") =
      some (Path.join beyond "src") := by decide +kernel
  have hdirectory : (reached [entry]).get? (Path.join beyond "src") = some .directory :=
    hkeeps.grows.get?_directory (by decide +kernel)
  have hmake := Disk.run_makeDirectories_of_directory hfaults hdirectory
  have hplace : (reached [entry]).HasPlace (Path.join beyond "src")
      (Path.join beyond "src/hooks.js") := by
    obtain ⟨l, hlocate, hl⟩ := Disk.get?_eq_some.1 hfile
    exact ⟨by decide +kernel, hdirectory, l, hlocate, by simp [hl]⟩
  obtain ⟨hwrite, -⟩ := Writer.writeFile_of_hasPlace (w := ⟨false, false⟩) (a := hooks) rfl rfl
    hfaults hfound (by simpa using hcontent) hparent hmake hfaults hplace
  rw [← hhooks] at hwrite
  have hvalid : validatePath hooks.path = .ok () := by rw [hhooks]; rfl
  obtain ⟨-, hsame⟩ := Writer.outcome_writeAll_concat hreport hvalid hwrite
  have hboth : reached [entry, hooks] = (reached [entry]).after
      (Writer.writeFile ⟨false, false⟩ (Path.join beyond hooks.path) hooks) := hsame
  rw [hboth]
  exact ⟨hkeeps.grows.trans Writer.keeps_writeFile.grows, Writer.holds_writeFile rfl hfaults hwrite⟩

/-- The files of a tree for Node.js, with a hook file that somebody did not write. -/
theorem exists_nodejs_files {maxDepth : Nat} {document : Value} {tree : CommandTree}
    (hbuild : CommandTree.build maxDepth document = .ok tree) {options : RenderOptions}
    {files : List Artifact} (h : Registry.builtin.render tree options "nodejs" = .ok files) :
    ∃ entry hooks manifest setup, files = [entry, hooks, manifest, setup] ∧
      entry.path = "cli.js" ∧ hooks.path = "src/hooks.js" ∧ manifest.path = "package.json" ∧
      setup.path = "setup.sh" ∧ "// mine\n".toUTF8 ≠ hooks.content.toUTF8 := by
  have hmem : Blueprint.javascript .plain ∈ Blueprint.builtin := by simp [Blueprint.builtin]
  have hrender := (Blueprint.render_registry hmem tree options).symm.trans h
  obtain ⟨scene, own, -, -, -, -, -, a, ha, hshown⟩ :=
    (Blueprint.sound_of_mem_builtin hmem).render_ok hbuild hrender
  -- The list of hooks alone is longer than what somebody wrote.
  obtain ⟨before, after, hcontent⟩ := hshown.frame_eq _ rfl _ rfl
  have hdiffers : "// mine\n".toUTF8 ≠ a.content.toUTF8 := by
    intro heq
    have hsize := congrArg ByteArray.size heq
    rw [hcontent] at hsize
    simp only [String.toUTF8_eq_toByteArray, String.size_toByteArray,
      String.utf8ByteSize_append] at hsize
    have hmine : "// mine\n".utf8ByteSize = 8 := by decide
    have hframe : "module.exports = \x7b\n".utf8ByteSize = 19 := by decide
    omega
  have hplaces := Registry.nodejs_places h
  simp only [Target.JavaScript.Dialect.places, List.map_eq_cons_iff, List.map_eq_nil_iff,
    Artifact.place, Prod.mk.injEq] at hplaces
  obtain ⟨entry, _, rfl, ⟨hprogram, hentry⟩, hooks, _, rfl, ⟨-, hhooks⟩, manifest, _, rfl,
    ⟨hpackage, hmanifest⟩, setup, _, rfl, ⟨hbootstrap, hsetup⟩, rfl⟩ := hplaces
  refine ⟨entry, hooks, manifest, setup, rfl, hentry, hhooks, hmanifest, hsetup, ?_⟩
  have hkind := hshown.kind_eq
  simp only [List.mem_cons, List.not_mem_nil, or_false] at ha
  rcases ha with rfl | rfl | rfl | rfl
  · rw [hprogram] at hkind
    cases hkind
  · exact hdiffers
  · rw [hpackage] at hkind
    cases hkind
  · rw [hbootstrap] at hkind
    cases hkind

/-- Nothing is kept back there. -/
theorem leaves_kept {tree : CommandTree} {files : List Artifact}
    (h : Registry.builtin.render tree ⟨3, 2⟩ "nodejs" = .ok files) :
    (delivery tree ⟨false, false⟩ "gone/../out" ["nodejs"]).leaves kept =
      (reached files).storage := by
  let r := delivery tree ⟨false, false⟩ "gone/../out" ["nodejs"]
  have hall : ((Merged.below beyond files : StateM Disk Merged).run missing).1.artifacts =
      files := by
    have hpaths : files.map (·.path) = Target.JavaScript.Dialect.plain.places.map (·.2) := by
      rw [← Registry.nodejs_places h, List.map_map]
      rfl
    refine Merged.artifacts_below_of_none ?_
    rw [hpaths]
    decide +kernel
  have hrender : Registry.builtin.render r.tree r.settings.options "nodejs" = .ok files := h
  have hbeyond : Path.join r.root "nodejs" = beyond := rfl
  have hdeliver := deliver_of_ok (d := missing) hrender
  rw [hbeyond, hall] at hdeliver
  exact congrArg Disk.storage hdeliver

/-- The hook file is replaced there. -/
theorem leaves_beyond {maxDepth : Nat} {document : Value} {tree : CommandTree}
    (hbuild : CommandTree.build maxDepth document = .ok tree) {files : List Artifact}
    (hfiles : Registry.builtin.render tree ⟨3, 2⟩ "nodejs" = .ok files) :
    ∃ bytes mode, ((delivery tree ⟨false, false⟩ "gone/../out" ["nodejs"]).leaves kept).get?
      ["out", "nodejs", "src", "hooks.js"] = some (.file bytes mode) ∧
        "// mine\n".toUTF8 ≠ bytes := by
  rw [leaves_kept hfiles]
  obtain ⟨entry, hooks, manifest, setup, rfl, hentry, hhooks, hmanifest, hsetup, hdiffers⟩ :=
    exists_nodejs_files hbuild hfiles
  obtain ⟨hgrows, htwo⟩ := writeAll_hooks hentry hhooks hdiffers
  -- The files that follow go elsewhere.
  have hplain : ∀ a ∈ [entry, hooks, manifest, setup], Path.IsPlain a.path := fun a ha =>
    Path.isPlain_of_validatePath ((Registry.deliverable_of_render hfiles).validPath a ha)
  have hthree := Writer.holds_writeAll_concat rfl (hplain hooks (by simp))
    (hplain manifest (by simp)) (by rw [hhooks, hmanifest]; decide) htwo
  obtain ⟨mode, hfile, -⟩ := Writer.holds_writeAll_concat rfl (hplain hooks (by simp))
    (hplain setup (by simp)) (by rw [hhooks, hsetup]; decide) hthree
  have hlater := hgrows.trans (Writer.grows_writeAll_append [entry, hooks] [manifest, setup])
  have hlocate : made.locate (Path.join beyond hooks.path) =
      .ok ["out", "nodejs", "src", "hooks.js"] := by
    rw [hhooks]
    decide +kernel
  exact ⟨_, mode, (Disk.get?_of_locate (hlater.locate hlocate)).symm.trans hfile, hdiffers⟩

/-- The hook file is lost where a step back leads out of a directory that is missing: it is not
found, so it is written, and by then it stands there. -/
theorem hookFile_lost_beyond : ∃ tree, CommandTree.build 2 CommandTree.equipped = .ok tree ∧
    HookPlace ["out", "nodejs", "src", "hooks.js"] ∧ kept.Rooted ∧
    kept.get? ["out", "nodejs", "src", "hooks.js"] =
      some (.file "// mine\n".toUTF8 Storage.plainMode) ∧
    ∃ bytes mode, ((delivery tree ⟨false, false⟩ "gone/../out" ["nodejs"]).leaves kept).get?
      ["out", "nodejs", "src", "hooks.js"] = some (.file bytes mode) ∧
        "// mine\n".toUTF8 ≠ bytes := by
  obtain ⟨tree, hbuild, -, hrender⟩ := Blueprint.exists_render_equipped
  obtain ⟨files, hfiles⟩ := hrender (.javascript .plain) (by simp [Blueprint.builtin])
  exact ⟨tree, hbuild, hookPlace_nodejs hfiles, rooted_kept, by decide +kernel,
    leaves_beyond hbuild hfiles⟩

end Run

end CliGen
