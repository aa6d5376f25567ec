import CliGen.Proofs.Artifact.Writing
import CliGen.Proofs.Config.File
import CliGen.Proofs.Toml.Tables

/-!
# Settings survive being saved

The settings that a program can come to are valid (`Config.Reached.validate`), and valid settings
are read back from the document that they are written as (`Config.read_document`). Only numbers keep
them from being written: a setting can be given a number that TOML has no place for
(`Config.document_eq_ok_iff`). So what is saved is what is loaded (`ConfigFile.load_of_save`).
-/

namespace CliGen

namespace Config

variable {c c' : Config} {name text : String}

/-! ## Documents -/

/-- No table and no key of the settings is printed twice. -/
theorem distinct_tables (c : Config) : Toml.Distinct c.tables where
  names := by
    rw [tables]
    simp
  keys := by
    rw [tables]
    cases c.logging.file <;> simp
  bareNames := by
    have hnames : ∀ name ∈ ["generation", "writer", "logging"], Toml.IsBareKey [] name.toList := by
      intro name hname
      refine Toml.IsBareKey.single name ?_
      revert name
      decide
    have htables : c.tables.map (·.1) = ["generation", "writer", "logging"] := rfl
    intro t ht
    exact hnames t.1 (htables ▸ List.mem_map_of_mem ht)
  bareKeys := by
    have hkeys : ∀ key ∈ ["max_depth", "hook_threshold", "targets", "output_dir", "parallel",
        "backup", "dry_run", "level", "file"], Toml.IsBareKey [] key.toList := by
      intro key hkey
      refine Toml.IsBareKey.single key ?_
      revert key
      decide
    intro t ht key hkey
    refine hkeys key ?_
    rw [tables] at ht
    -- Only the keys of the last table depend on whether there is a log file.
    cases hfile : c.logging.file <;> rw [hfile] at ht <;>
      simp only [List.mem_cons, List.not_mem_nil, or_false] at ht <;>
      rcases ht with rfl | rfl | rfl <;> simp at hkey ⊢ <;> tauto

/-- A list of texts is read as these texts. -/
theorem texts?_strs (items : List String) : texts? (.list (items.map .str)) = some items := by
  have hall : (items.map Value.str).mapM Value.str? = some items := by
    induction items with
    | nil => rfl
    | cons item items ih =>
      rw [List.map_cons, List.mapM_cons, ih]
      rfl
  exact hall

/-- The settings of the values of the tables. -/
theorem ofValue?_tables (c : Config) : ofValue? (.object (c.tables.map fun t =>
    (t.1, .object (t.2.map fun p => (p.1, p.2.value))))) = some c := by
  obtain ⟨⟨maxDepth, hookThreshold, targets, outputDir, parallel⟩, ⟨backup, dryRun⟩,
    ⟨level, file⟩⟩ := c
  have hgeneration : readGeneration? (.object [("max_depth", .int maxDepth),
      ("hook_threshold", .int hookThreshold), ("targets", .list (targets.map .str)),
      ("output_dir", .str outputDir), ("parallel", .bool parallel)]) =
        some ⟨maxDepth, hookThreshold, targets, outputDir, parallel⟩ := by
    simp [readGeneration?, members?, member, Fields.get?, natural?, texts?_strs, Value.str?, truth?]
  have hwriter : readWriter? (.object [("backup", .bool backup), ("dry_run", .bool dryRun)]) =
      some ⟨backup, dryRun⟩ := rfl
  have hlogging : readLogging? (.object (("level", .str level) ::
      (file.map fun file => ("file", Value.str file)).toList)) = some ⟨level, file⟩ := by
    cases file <;> rfl
  -- The tables as they are listed, with the log file if there is one.
  have hfields : (Config.mk ⟨maxDepth, hookThreshold, targets, outputDir, parallel⟩
      ⟨backup, dryRun⟩ ⟨level, file⟩).tables.map
        (fun t => (t.1, Value.object (t.2.map fun p => (p.1, p.2.value)))) =
      [("generation", .object [("max_depth", .int maxDepth),
        ("hook_threshold", .int hookThreshold), ("targets", .list (targets.map .str)),
        ("output_dir", .str outputDir), ("parallel", .bool parallel)]),
      ("writer", .object [("backup", .bool backup), ("dry_run", .bool dryRun)]),
      ("logging", .object (("level", .str level) ::
        (file.map fun file => ("file", Value.str file)).toList))] := by
    cases file <;> rfl
  rw [hfields]
  simp [ofValue?, Value.object?, member, Fields.get?, hgeneration, hwriter, hlogging]

/-- Valid settings are read from their document. -/
theorem read_document (h : c.document = .ok text) (hvalid : c.validate = .ok ()) :
    read text = .ok c := by
  rw [document] at h
  split at h
  · next printed hprinted =>
    cases h
    have hparse := Toml.parse_tables c.distinct_tables hprinted
    rw [read, hparse, Option.bind_some, ofValue?_tables]
    dsimp only
    rw [hvalid]
    rfl
  · cases h

/-- Settings can be written if TOML has a place for their numbers. -/
theorem document_eq_ok_iff : (∃ text, c.document = .ok text) ↔
    c.generation.maxDepth ≤ Toml.maxInt ∧ c.generation.hookThreshold ≤ Toml.maxInt := by
  have htables : (∃ text, Toml.tables? c.tables = some text) ↔
      c.generation.maxDepth ≤ Toml.maxInt ∧ c.generation.hookThreshold ≤ Toml.maxInt := by
    rw [Toml.exists_tables?, tables]
    cases c.logging.file <;>
      simp only [List.forall_mem_cons, List.not_mem_nil, false_imp_iff, implies_true, and_true,
        Toml.Setting.Fits, Option.map_none, Option.map_some, Option.toList_none,
        Option.toList_some]
  rw [← htables, document]
  cases Toml.tables? c.tables <;> simp

/-! ## Settings that a program can come to -/

/-- Which settings are valid. -/
theorem validate_eq_ok : c.validate = .ok () ↔
    0 < c.generation.maxDepth ∧ 0 < c.generation.hookThreshold ∧ c.logging.level ∈ levels := by
  rw [validate]
  dsimp only
  split
  · next hzero => simp [hzero]
  split
  · next hzero => simp [hzero]
  split
  · next hunknown => simpa using fun _ _ => by simpa using hunknown
  · next hdepth hthreshold hknown =>
    simpa [Nat.pos_iff_ne_zero, hdepth, hthreshold] using hknown

/-- Counts that are read are positive and can be stored. -/
theorem of_readCount? {n : Nat} (h : readCount? text = some n) : 0 < n ∧ n ≤ maxNumber := by
  rw [readCount?] at h
  obtain ⟨m, -, h⟩ := Option.bind_eq_some_iff.1 h
  obtain ⟨_, hguard, h⟩ := Option.bind_eq_some_iff.1 h
  cases h
  exact (Option.guard_eq_some' _).1 hguard

/-- What a setting can change to. -/
inductive Changed (c : Config) (text : String) : Key → Config → Prop
  | maxDepth {n : Nat} (h : readCount? text = some n) :
    Changed c text .maxDepth { c with generation.maxDepth := n }
  | hookThreshold {n : Nat} (h : readCount? text = some n) :
    Changed c text .hookThreshold { c with generation.hookThreshold := n }
  | targets (h : readItems text ≠ []) :
    Changed c text .targets { c with generation.targets := readItems text }
  | outputDir (h : Text.trim text ≠ "") :
    Changed c text .outputDir { c with generation.outputDir := text }
  | parallel {b : Bool} (h : readTruth? text = some b) :
    Changed c text .parallel { c with generation.parallel := b }
  | backup {b : Bool} (h : readTruth? text = some b) :
    Changed c text .backup { c with writer.backup := b }
  | dryRun {b : Bool} (h : readTruth? text = some b) :
    Changed c text .dryRun { c with writer.dryRun := b }
  | level (h : Text.lowerAscii text ∈ levels) :
    Changed c text .level { c with logging.level := Text.lowerAscii text }
  | file :
    Changed c text .file
      { c with logging.file := if text == "" || text == "None" then none else some text }

/-- Setting a key puts what the text is read as in its place. -/
theorem changed_of_set? {key : Key} (h : c.set? key text = some c') : Changed c text key c' := by
  cases key with
  | maxDepth | hookThreshold | parallel | backup | dryRun =>
    obtain ⟨_, hvalue, rfl⟩ := Option.map_eq_some_iff.1 h
    constructor
    exact hvalue
  | targets | outputDir =>
    obtain ⟨hne, h⟩ := Option.ite_none_left_eq_some.1 h
    cases h
    constructor
    simpa using hne
  | level =>
    obtain ⟨hknown, h⟩ := Option.ite_none_right_eq_some.1 h
    cases h
    exact .level (List.contains_iff_mem.1 hknown)
  | file =>
    cases h
    exact .file

/-- A setting that is changed leaves the others valid. -/
theorem validate_of_set? {key : Key} (h : c.set? key text = some c')
    (hvalid : c.validate = .ok ()) : c'.validate = .ok () := by
  rw [validate_eq_ok] at hvalid ⊢
  obtain ⟨hdepth, hthreshold, hlevel⟩ := hvalid
  cases changed_of_set? h with
  -- Numbers and levels are checked when they are set, and nothing else has to be valid.
  | maxDepth hcount => exact ⟨(of_readCount? hcount).1, hthreshold, hlevel⟩
  | hookThreshold hcount => exact ⟨hdepth, (of_readCount? hcount).1, hlevel⟩
  | level hknown => exact ⟨hdepth, hthreshold, hknown⟩
  | targets | outputDir | parallel | backup | dryRun | file => exact ⟨hdepth, hthreshold, hlevel⟩

/-- Valid settings are valid after a change. -/
theorem validate_of_setNamed (h : c.setNamed name text = .ok c') (hvalid : c.validate = .ok ()) :
    c'.validate = .ok () := by
  rw [setNamed] at h
  split at h
  · cases h
  · split at h
    · next hset =>
      cases h
      exact validate_of_set? hset hvalid
    · cases h

/-- Settings that a program can come to: the standard ones, those that it loads, and those that it
changes by names and texts. -/
inductive Reached : Config → Prop
  | standard : Reached .standard
  | loaded {d : Disk} {home project explicit : Option String} {f : ConfigFile}
      (h : d.outcome (ConfigFile.load home project explicit) = .ok f) : Reached f.config
  | set {c c' : Config} {name text : String} (hc : Reached c)
      (h : c.setNamed name text = .ok c') : Reached c'

/-- All settings that a program can come to are valid. -/
theorem Reached.validate (h : c.Reached) : c.validate = .ok () := by
  induction h with
  | standard => rfl
  | loaded h => exact ConfigFile.validate_of_load h
  | set _ h ih => exact validate_of_setNamed h ih

end Config

/-! ## Files -/

/-- A text can be told from its bytes. -/
theorem fromUTF8?_toUTF8 (s : String) : String.fromUTF8? s.toUTF8 = some s := by
  rw [String.fromUTF8?, String.toUTF8_eq_toByteArray, dif_pos s.isValidUTF8]
  rfl

namespace ConfigFile

open Disk

variable {d : Disk} {f : ConfigFile} {path text : String} {bytes : ByteArray}

/-- Write a file of settings, and the directories above it. -/
def store (path : String) (bytes : ByteArray) : ExceptT Problem (StateM Disk) Unit := do
  if let some directory := Path.parent? path then
    onFile directory "create config directory" (Files.makeDirectories directory)
  onFile path "write config file" (Files.write path bytes)

/-- A disk that takes a file of settings, whatever its bytes. -/
structure Accepts (d : Disk) (path : String) : Prop where
  faults : d.faults = []
  store : ∀ bytes, d.outcome (store path bytes) = .ok ()

/-- Saving stores the printed settings. -/
theorem save_of_document (h : f.config.document = .ok text) :
    f.save (m := StateM Disk) = store f.path text.toUTF8 := by
  unfold save store
  rw [h]
  rfl

/-- Where storing succeeds, the file holds the bytes. -/
theorem get?_of_store (h : d.outcome (store path bytes) = .ok ()) :
    ∃ mode, (d.after (store path bytes)).get? path = some (.file bytes mode) := by
  unfold store at h ⊢
  have hwrite (d : Disk) (h : d.outcome (onFile (m := StateM Disk) path "write config file"
      (Files.write path bytes)) = .ok ()) : ∃ mode, (d.after (onFile (m := StateM Disk) path
        "write config file" (Files.write path bytes))).get? path = some (.file bytes mode) :=
    get?_of_write (outcome_onFile_eq_ok.1 h)
  cases hparent : Path.parent? path with
  | none =>
    rw [hparent] at h
    exact hwrite d h
  | some directory =>
    rw [hparent] at h
    obtain ⟨_, hmade, h⟩ := outcome_bind_eq_ok.1 h
    rw [after_bind_of_ok hmade]
    exact hwrite _ h

/-- Storing brings up no faults. -/
theorem faults_of_store (hfaults : d.faults = []) :
    (d.after (store path bytes)).faults = [] := by
  have hkeeps : d.Keeps [path] (d.after (store path bytes)) := by
    unfold store
    cases Path.parent? path with
    | none => exact keeps_write
    | some directory =>
      exact keeps_bind (keeps_makeDirectories.mono (List.nil_subset _)) fun _ _ => keeps_write
  rw [← List.suffix_nil, ← hfaults]
  exact hkeeps.faults

/-- Settings that cannot be written are not saved. -/
theorem exists_document_of_save (h : d.outcome f.save = .ok ()) :
    ∃ text, f.config.document = .ok text := by
  have hwrite (d : Disk) (h : d.outcome (MonadExcept.ofExcept f.config.document >>= fun text =>
      onFile (m := StateM Disk) f.path "write config file" (Files.write f.path text.toUTF8)) =
        .ok ()) : ∃ text, f.config.document = .ok text := by
    obtain ⟨text, htext, -⟩ := outcome_bind_eq_ok.1 h
    exact ⟨text, by rwa [outcome_ofExcept] at htext⟩
  unfold save at h
  cases hparent : Path.parent? f.path with
  | none =>
    rw [hparent] at h
    exact hwrite d h
  | some directory =>
    rw [hparent] at h
    obtain ⟨_, -, h⟩ := outcome_bind_eq_ok.1 h
    exact hwrite _ h

/-- Valid settings are loaded from the file that they stand in. -/
theorem load_of_get? (hfaults : d.faults = []) (hdocument : f.config.document = .ok text)
    (hvalid : f.config.validate = .ok ()) {mode : Nat}
    (hfile : d.get? f.path = some (.file text.toUTF8 mode)) (home project : Option String) :
    d.outcome (load home project (some f.path)) = .ok ⟨f.path, f.config, .explicit⟩ := by
  have hhas : (Files.has f.path : StateM Disk _).run d = (true, d) := by
    change ((d.get? f.path).isSome, d) = _
    rw [hfile]
    rfl
  have hread : d.outcome (readText f.path "read config file") = .ok text := by
    obtain ⟨k, hlocate, hk⟩ := get?_eq_some.1 hfile
    have hbytes : ((Files.read f.path : StateM Disk _).run d).1 = .ok text.toUTF8 := by
      rw [run_read hfaults, hlocate]
      exact Storage.read_eq_ok.2 ⟨mode, hk⟩
    refine outcome_bind_eq_ok.2 ⟨text.toUTF8, outcome_onFile_eq_ok.2 hbytes, ?_⟩
    rw [fromUTF8?_toUTF8]
    rfl
  refine outcome_bind_eq_ok.2 ⟨true, by rw [outcome_lift, hhas], ?_⟩
  rw [after_lift, hhas, if_pos rfl]
  refine outcome_bind_eq_ok.2 ⟨text, hread, ?_⟩
  refine outcome_bind_eq_ok.2 ⟨f.config, ?_, rfl⟩
  rw [outcome_ofExcept]
  exact Config.read_document hdocument hvalid

/-- **What is saved is what is loaded.** Settings that a program can come to are saved, on a disk
that takes their file, if TOML has a place for their numbers; and the file is then loaded with the
same settings. -/
theorem load_of_save (hreached : f.config.Reached) (haccepts : Accepts d f.path) :
    (d.outcome f.save = .ok () ↔ f.config.generation.maxDepth ≤ Toml.maxInt ∧
      f.config.generation.hookThreshold ≤ Toml.maxInt) ∧
    (d.outcome f.save = .ok () → ∀ home project,
      (d.after f.save).outcome (load home project (some f.path)) =
        .ok ⟨f.path, f.config, .explicit⟩) := by
  constructor
  · -- The disk takes the file, so only the document can be missing.
    rw [← Config.document_eq_ok_iff]
    refine ⟨exists_document_of_save, fun ⟨text, htext⟩ => ?_⟩
    rw [save_of_document htext]
    exact haccepts.store _
  · intro hsaved home project
    obtain ⟨text, htext⟩ := exists_document_of_save hsaved
    rw [save_of_document htext] at hsaved ⊢
    obtain ⟨mode, hfile⟩ := get?_of_store hsaved
    exact load_of_get? (faults_of_store haccepts.faults) htext hreached.validate hfile home project

/-- A disk that nothing was ever put on. -/
def blank : Disk := ⟨[], [], []⟩

/-- An empty disk takes a file of settings. -/
theorem accepts_blank : Accepts blank "settings/forge.toml" := ⟨rfl, fun _ => rfl⟩

/-- A changed setting is saved to an empty disk and loaded again. -/
theorem load_of_save_blank : ∃ c, Config.standard.setNamed "generation.max_depth" "7" = .ok c ∧
    c ≠ Config.standard ∧
    blank.outcome (save ⟨"settings/forge.toml", c, .defaults⟩) = .ok () ∧
    (blank.after (save ⟨"settings/forge.toml", c, .defaults⟩)).outcome
      (load none none (some "settings/forge.toml")) =
        .ok ⟨"settings/forge.toml", c, .explicit⟩ := by
  have hset : Config.standard.setNamed "generation.max_depth" "7" =
      .ok ⟨⟨7, 3, ["python"], "generated", true⟩, ⟨true, false⟩, ⟨"info", none⟩⟩ := rfl
  obtain ⟨hsaves, hloads⟩ := load_of_save (d := blank) (f := ⟨"settings/forge.toml", _, .defaults⟩)
    (.set .standard hset) accepts_blank
  have hsaved := hsaves.2 (by decide)
  exact ⟨_, hset, by decide, hsaved, hloads hsaved none none⟩

/-- A number that is accepted for a setting may be too large for the file of the settings. -/
theorem unsaved_beyond_maxInt :
    ∃ c, Config.standard.setNamed "generation.max_depth" "9223372036854775808" = .ok c ∧
      Accepts blank "settings/forge.toml" ∧
      blank.outcome (save ⟨"settings/forge.toml", c, .defaults⟩) =
        .error (.config "Failed to serialize config" (some "out-of-range value for u64 type")) := by
  exact ⟨⟨⟨9223372036854775808, 3, ["python"], "generated", true⟩, ⟨true, false⟩,
    ⟨"info", none⟩⟩, rfl, accepts_blank, rfl⟩

end ConfigFile

end CliGen
