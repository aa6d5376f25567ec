import CliGen.Proofs.Tree.Levels
import CliGen.Proofs.Tree.Parameters

/-!
# Invariants of a tree

What holds of every tree that is read, at every level: of each command by itself (`Command.Sound`),
and of the siblings together with the path above them (`CommandTree.LevelSound`). Each check of the
reading is one of the facts; the reading of a container gives the facts on siblings, and the reading
of one entry those on a command, so `sound_of_build` has only to go through the levels.
-/

namespace CliGen

open Outcome

/-- What holds of every command that is read. -/
structure Command.Sound (c : Command) : Prop where
  arguments : Param.ArgumentsSound c.arguments
  options : Param.OptionsSound c.options
  identifiers :
    ((c.arguments.map (·.name) ++ c.options.map (·.name)).map Naming.identifier).Nodup
  name_notMem_aliases : c.name ∉ c.aliases
  managed_subcommands : c.lifecycle.isManaged = true → c.subcommands = []

/-- What holds of the siblings of one level, if commands may stand below fewer than `limit`
others. -/
structure CommandTree.LevelSound (t : CommandTree) (limit : Nat)
    (ancestors siblings : List Command) : Prop where
  each : ∀ c ∈ siblings, c.Sound
  parentPath_eq : ∀ c ∈ siblings, c.parentPath = ancestors.map (·.name)
  depth_lt : ∀ c ∈ siblings, c.depth = c.parentPath.length ∧ c.depth < limit
  names : (siblings.flatMap fun c => c.name :: c.aliases).Nodup
  identifiers : (siblings.map fun c => Naming.identifier c.name).Nodup
  find?_name : ∀ c ∈ siblings, Command.find? c.name siblings = some c
  find?_path : ∀ c ∈ siblings, t.find? c.path = some c

namespace Build

variable {limit : Nat} {path : List String}

/-- A command that is read is called by the name and the aliases of its entry. -/
theorem tokens_of_readNested {entry : NamedBody} {c : Command}
    (h : readNested limit path entry = .ok c) :
    Siblings.tokens path entry = .ok (c.name :: c.aliases) := by
  obtain ⟨command, below, hread, -, hc⟩ := read_of_readNested h
  obtain ⟨-, hcommand, -, -⟩ := Waiting.read_ok hread
  obtain ⟨hname, -, -⟩ := readCommand_ok hcommand
  obtain ⟨fields, hbody, -, -, -, haliases⟩ := readCommand_parts hcommand
  replace hbody : entry.2 = .object fields := hbody
  replace haliases : Siblings.readAliases fields (path ++ [entry.1]) = .ok command.aliases :=
    haliases
  rw [hc]
  simp only [Siblings.tokens, hbody, haliases, ok_bind, pure_eq_ok, hname]
  rfl

/-- What the reading of an entry says of its command. -/
theorem sound_of_readNested {entry : NamedBody} {c : Command}
    (h : readNested limit path entry = .ok c) (hname : c.name ∉ c.aliases) : c.Sound := by
  obtain ⟨command, below, hread, hsubs, hc⟩ := read_of_readNested h
  obtain ⟨-, hcommand, -, hmanaged⟩ := Waiting.read_ok hread
  obtain ⟨fields, -, harguments, hoptions, hapart, -⟩ := readCommand_parts hcommand
  have hargs : Param.ArgumentsSound command.arguments := Param.readArguments_ok harguments
  have hopts : Param.OptionsSound command.options := Param.readOptions_ok hoptions
  have harguments : c.arguments = command.arguments := by rw [hc]
  have hoptions : c.options = command.options := by rw [hc]
  have hlifecycle : c.lifecycle = command.lifecycle := by rw [hc]
  refine ⟨harguments ▸ hargs, hoptions ▸ hopts, ?_, hname, ?_⟩
  · rw [harguments, hoptions, List.map_append, List.map_map, List.map_map]
    refine List.nodup_append.2 ⟨hargs.identifiers, hopts.identifiers, ?_⟩
    intro i hi j hj heq
    obtain ⟨o, ho, rfl⟩ := List.mem_map.1 hj
    rw [heq] at hi
    exact hapart o ho (Param.isTaken_iff.2 hi)
  · intro hm
    rw [hlifecycle] at hm
    rw [hmanaged hm] at hsubs
    exact (Except.ok.inj hsubs).symm

/-- All that the siblings of one container are called by is pairwise different. -/
theorem nodup_tokens_of_mapM {container : Option Value} {field : String}
    {entries : List NamedBody} {cs : List Command}
    (hentries : Siblings.collect container field path = .ok entries)
    (h : entries.mapM (readNested limit path) = .ok cs) :
    (cs.flatMap fun c => c.name :: c.aliases).Nodup := by
  obtain ⟨-, ⟨names, htokens, hnodup⟩, -⟩ := Siblings.collect_ok hentries
  have hcalled : entries.mapM (Siblings.tokens path) =
      .ok (cs.map fun c => c.name :: c.aliases) := by
    rw [mapM_eq_ok, List.forall₂_map_right_iff]
    exact (mapM_eq_ok.1 h).imp fun _ _ => tokens_of_readNested
  have hnames : names = cs.map fun c => c.name :: c.aliases :=
    Except.ok.inj (htokens.symm.trans hcalled)
  rwa [List.flatMap_def, ← hnames]

/-- The identifiers of siblings are pairwise different. -/
theorem nodup_identifiers_of_mapM {container : Option Value} {field : String}
    {entries : List NamedBody} {cs : List Command}
    (hentries : Siblings.collect container field path = .ok entries)
    (h : entries.mapM (readNested limit path) = .ok cs) :
    (cs.map fun c => Naming.identifier c.name).Nodup := by
  have hnames : cs.map (·.name) = entries.map (·.1) := names_of_mapM h
  have hboth : cs.map (fun c => Naming.identifier c.name) =
      entries.map (Naming.identifier ·.1) := by
    calc cs.map (fun c => Naming.identifier c.name)
        = (cs.map (·.name)).map Naming.identifier := by rw [List.map_map]; rfl
      _ = (entries.map (·.1)).map Naming.identifier := by rw [hnames]
      _ = entries.map (Naming.identifier ·.1) := by rw [List.map_map]; rfl
  rw [hboth]
  exact Siblings.nodup_identifiers_of_collect hentries

end Build

/-- Among siblings of different names, each is the one that is found by its name. -/
theorem Command.find?_name {cs : List Command} (h : (cs.map (·.name)).Nodup) {c : Command}
    (hc : c ∈ cs) : Command.find? c.name cs = some c := by
  induction cs with
  | nil => simp at hc
  | cons d ds ih =>
    rw [List.map_cons, List.nodup_cons] at h
    rcases List.mem_cons.1 hc with rfl | hc
    · rw [Command.find?, List.find?_cons_of_pos (by simp)]
    · have hne : ¬ (d.name == c.name) = true := by
        intro heq
        rw [eq_of_beq heq] at h
        exact h.1 (List.mem_map_of_mem hc)
      have hskip : Command.find? c.name (d :: ds) = Command.find? c.name ds :=
        List.find?_cons_of_neg hne
      rw [hskip]
      exact ih h.2 hc

namespace CommandTree

/-- The command at a longer path is looked for among those below the command at the path. -/
theorem find?_concat (t : CommandTree) {path : List String} (hpath : path ≠ []) (name : String) :
    t.find? (path ++ [name]) =
      (t.find? path).bind fun c => Command.find? name c.subcommands := by
  obtain ⟨first, rest, rfl⟩ := List.exists_cons_of_ne_nil hpath
  rw [List.cons_append, find?, find?, List.foldl_append]
  rfl

variable {maxDepth : Nat} {document : Value} {t : CommandTree}

namespace Level

variable {ancestors siblings : List Command}

/-- Every command of a level stands below the path of the commands above. -/
theorem parentPath_eq (hbuild : build maxDepth document = .ok t)
    (h : t.Level ancestors siblings) {c : Command} (hc : c ∈ siblings) :
    c.parentPath = ancestors.map (·.name) ∧ c.depth < max maxDepth 1 := by
  obtain ⟨container, field, entries, -, hread⟩ := h.container_of_build hbuild
  obtain ⟨e, -, he⟩ := exists_of_mem_mapM hread hc
  obtain ⟨hfits, -, hparent, -⟩ := Build.readNested_ok he
  refine ⟨hparent, ?_⟩
  rwa [Command.depth, hparent]

/-- Siblings have distinct names. -/
theorem nodup_names (hbuild : build maxDepth document = .ok t) (h : t.Level ancestors siblings) :
    (siblings.map (·.name)).Nodup := by
  obtain ⟨container, field, entries, hentries, hread⟩ := h.container_of_build hbuild
  rw [Build.names_of_mapM hread]
  exact Siblings.nodup_names_of_collect hentries

/-- Siblings have distinct identifiers. -/
theorem nodup_identifiers (hbuild : build maxDepth document = .ok t)
    (h : t.Level ancestors siblings) :
    (siblings.map fun c => Naming.identifier c.name).Nodup := by
  obtain ⟨container, field, entries, hentries, hread⟩ := h.container_of_build hbuild
  exact Build.nodup_identifiers_of_mapM hentries hread

/-- Every command of a level is the one that is found by its path. -/
theorem find?_path (hbuild : build maxDepth document = .ok t) (h : t.Level ancestors siblings)
    {c : Command} (hc : c ∈ siblings) : t.find? c.path = some c := by
  induction h generalizing c with
  | top =>
    have hparent : c.parentPath = [] := (parentPath_eq hbuild .top hc).1
    rw [Command.path, hparent]
    exact Command.find?_name (nodup_names hbuild .top) hc
  | @descend ancestors siblings p above mem ih =>
    -- A command is looked for below its parent, which is found by its own path.
    have hlevel : t.Level (ancestors ++ [p]) p.subcommands := above.descend mem
    have hparent : c.parentPath = p.path := by
      rw [(parentPath_eq hbuild hlevel hc).1, List.map_append, List.map_singleton, Command.path,
        (parentPath_eq hbuild above mem).1]
    have hpath : p.path ≠ [] := by simp [Command.path]
    rw [Command.path, hparent, find?_concat t hpath, ih mem, Option.bind_some]
    exact Command.find?_name (nodup_names hbuild hlevel) hc

/-- Below the top, a command is one of those right below another, which the walk passes first. -/
theorem exists_parent (hbuild : build maxDepth document = .ok t) {c : Command} (hc : c ∈ t.walk)
    (hbelow : c.parentPath ≠ []) :
    ∃ p, c ∈ p.subcommands ∧ p.path = c.parentPath ∧ [p, c].Sublist t.walk := by
  obtain ⟨ancestors, siblings, hlevel, hmem⟩ := exists_of_mem_walk hc
  cases hlevel with
  | top => exact absurd (parentPath_eq hbuild .top hmem).1 hbelow
  | @descend ancestors siblings p above mem =>
    refine ⟨p, hmem, ?_, pair_sublist_walkPending (above.mem_walk mem) hmem⟩
    rw [(parentPath_eq hbuild (above.descend mem) hmem).1, Command.path,
      (parentPath_eq hbuild above mem).1, List.map_append, List.map_singleton]

/-- The facts of every level. -/
theorem sound_of_build (hbuild : build maxDepth document = .ok t)
    (h : t.Level ancestors siblings) : t.LevelSound (max maxDepth 1) ancestors siblings := by
  obtain ⟨container, field, entries, hentries, hread⟩ := h.container_of_build hbuild
  have htokens := Build.nodup_tokens_of_mapM hentries hread
  refine ⟨?_, ?_, ?_, htokens, nodup_identifiers hbuild h, ?_, ?_⟩
  · intro c hc
    obtain ⟨e, -, he⟩ := exists_of_mem_mapM hread hc
    have hown : (c.name :: c.aliases).Nodup := (List.nodup_flatMap.1 htokens).1 c hc
    exact Build.sound_of_readNested he (List.nodup_cons.1 hown).1
  · exact fun c hc => (parentPath_eq hbuild h hc).1
  · exact fun c hc => ⟨rfl, (parentPath_eq hbuild h hc).2⟩
  · exact fun c hc => Command.find?_name (nodup_names hbuild h) hc
  · exact fun c hc => find?_path hbuild h hc

end Level

/-- The options of the command line are sound. -/
theorem optionsSound_of_build (h : build maxDepth document = .ok t) :
    Param.OptionsSound t.globalOptions := by
  obtain ⟨fields, head, -, -, hhead, -, -, ht⟩ := parts_of_build h
  rw [ht]
  exact Param.readOptions_ok (Build.readHead_ok hhead).2

/-- **Every tree that is built satisfies the invariants.** Whatever the document and the ceiling,
the options of the command line are sound, and on every level all commands are, with the path above
them, a depth below the ceiling, names and aliases that are pairwise different and identifiers that
are. -/
theorem levels_sound_of_build (h : build maxDepth document = .ok t) :
    Param.OptionsSound t.globalOptions ∧ ∀ ancestors siblings, t.Level ancestors siblings →
      t.LevelSound (max maxDepth 1) ancestors siblings :=
  ⟨optionsSound_of_build h, fun _ _ hlevel => hlevel.sound_of_build h⟩

/-- A description with a parameter of every kind and a managed command below a standard one. -/
def equipped : Value := .object [
  ("name", .str "tool"),
  ("options", .list [.object [("name", .str "--verbose"), ("short", .str "-v"),
    ("default", .bool false)]]),
  ("commands", .object [
    ("db", .object [("desc", .str "Databases"), ("aliases", .list [.str "data", .str "db"]),
      ("args", .list [.object [("name", .str "host")],
        .object [("name", .str "port"), ("type", .str "int"), ("default", .int 5432)]]),
      ("options", .list [.object [("name", .str "format"), ("short", .str "f"),
        ("choices", .list [.str "csv", .str "json", .str "csv"]), ("default", .str "json")]]),
      ("subcommands", .list [
        .object [("name", .str "serve"), ("desc", .str "Serve"), ("lifecycle", .str "managed")],
        .object [("name", .str "dry-run"), ("desc", .str "Try"), ("alias", .str "try")]])])])]

/-- The two commands below a group, beside the options of the command line. -/
theorem levels_sound_of_build_equipped : ∃ t db, build 2 equipped = .ok t ∧
    t.find? ["db"] = some db ∧ db.subcommands.map (·.path) = [["db", "serve"], ["db", "dry-run"]] ∧
    Param.OptionsSound t.globalOptions ∧ t.LevelSound 2 [db] db.subcommands := by
  have hbuilt : (build 2 equipped).toOption.any (fun t => (t.find? ["db"]).any fun db =>
      db.subcommands.map (·.path) = [["db", "serve"], ["db", "dry-run"]]) = true := by
    decide +kernel
  simp only [Option.any_eq_true, Outcome.toOption_eq_some, decide_eq_true_eq] at hbuilt
  obtain ⟨t, ht, db, hdb, hpaths⟩ := hbuilt
  obtain ⟨hglobal, hlevels⟩ := levels_sound_of_build ht
  have hmem : db ∈ t.commands := List.mem_of_find?_eq_some hdb
  exact ⟨t, db, ht, hdb, hpaths, hglobal, hlevels [db] db.subcommands (.descend .top hmem)⟩

end CommandTree

end CliGen
