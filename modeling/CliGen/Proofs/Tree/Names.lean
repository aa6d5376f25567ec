import CliGen.Proofs.Tree.Invariants

/-!
# Names in a tree

The entries of a container that passes are called by names, so in a tree that has been read every
segment of every path is one (`CommandTree.isName_of_mem_path`). So is every name of a parameter
(`CommandTree.isName_of_mem_parameterNames`), and a command's parameters are told apart by the
identifiers of their names (`CommandTree.nodup_identifiers_of_parameterNames`).
-/

namespace CliGen

open CliGen.Field Outcome

/-- The paths of a forest that is read below a path of names consist of names. -/
theorem Build.isName_of_mapM {limit : Nat} {path : List String} {entries : List NamedBody}
    {cs : List Command} (hpath : ∀ s ∈ path, isName s = true)
    (hentries : ∀ e ∈ entries, isName e.1 = true)
    (h : entries.mapM (readNested limit path) = .ok cs) :
    ∀ c ∈ walkPending cs, ∀ s ∈ c.path, isName s = true := by
  induction cs using forest_induction generalizing path entries with
  | nil => simp
  | cons c cs below beside =>
    obtain ⟨e, es, hc, hcs, rfl⟩ := List.forall₂_cons_right_iff.1 (mapM_eq_ok.1 h)
    obtain ⟨-, hname, hparent, nested, hnested, hsubs⟩ := readNested_ok hc
    rw [List.forall_mem_cons] at hentries
    have hown : ∀ s ∈ path ++ [e.1], isName s = true := by
      intro s hs
      rcases List.mem_append.1 hs with hs | hs
      · exact hpath s hs
      · exact List.mem_singleton.1 hs ▸ hentries.1
    rw [forall_mem_walkPending_cons]
    refine ⟨?_, below hown (Siblings.isName_of_collect hnested) hsubs,
      beside hpath hentries.2 (mapM_eq_ok.2 hcs)⟩
    rwa [Command.path, hparent, hname]

/-- The segments of a command's path are names. -/
theorem CommandTree.isName_of_mem_path {maxDepth : Nat} {document : Value} {t : CommandTree}
    (h : build maxDepth document = .ok t) {c : Command} (hc : c ∈ t.walk) :
    ∀ s ∈ c.path, isName s = true := by
  obtain ⟨container, entries, hentries, hcommands⟩ := commands_of_build h
  exact Build.isName_of_mapM (by simp) (Siblings.isName_of_collect hentries) hcommands c hc

/-! ## Names of parameters -/

/-- The names of a command's parameters, arguments first. -/
def Command.parameterNames (c : Command) : List String :=
  c.arguments.map (·.name) ++ c.options.map (·.name)

/-- The parameters of a command are read from the fields of its body. -/
theorem Build.parameters_of_readNested {limit : Nat} {path : List String} {entry : NamedBody}
    {c : Command} (h : readNested limit path entry = .ok c) :
    ∃ fields own, entry.2 = .object fields ∧
      Param.readArguments fields own = .ok c.arguments ∧
      Param.readOptions fields own = .ok c.options := by
  obtain ⟨command, below, hread, -, hc⟩ := read_of_readNested h
  obtain ⟨-, hcommand, -, -⟩ := Waiting.read_ok hread
  obtain ⟨fields, hbody, harguments, hoptions, -, -⟩ := readCommand_parts hcommand
  rw [hc]
  exact ⟨fields, _, hbody, harguments, hoptions⟩

namespace CommandTree

variable {maxDepth : Nat} {document : Value} {t : CommandTree}

/-- The parameters of a command are called by names. -/
theorem isName_of_mem_parameterNames (h : build maxDepth document = .ok t) {c : Command}
    (hc : c ∈ t.walk) : ∀ n ∈ c.parameterNames, isName n = true := by
  obtain ⟨ancestors, siblings, hlevel, hmem⟩ := Level.exists_of_mem_walk hc
  obtain ⟨container, field, entries, -, hread⟩ := hlevel.container_of_build h
  obtain ⟨e, -, he⟩ := exists_of_mem_mapM hread hmem
  obtain ⟨fields, own, -, harguments, hoptions⟩ := Build.parameters_of_readNested he
  intro n hn
  rcases List.mem_append.1 hn with hn | hn
  · obtain ⟨a, ha, rfl⟩ := List.mem_map.1 hn
    exact Param.isName_of_readArguments harguments a ha
  · obtain ⟨o, ho, rfl⟩ := List.mem_map.1 hn
    exact Param.isName_of_readOptions hoptions o ho

/-- So are the options of the command line. -/
theorem isName_of_mem_globalOptions (h : build maxDepth document = .ok t) :
    ∀ o ∈ t.globalOptions, isName o.name = true := by
  obtain ⟨fields, head, -, -, hhead, -, -, ht⟩ := parts_of_build h
  rw [ht]
  exact Param.isName_of_readOptions (Build.readHead_ok hhead).2

/-- The parameters of a command have different identifiers. -/
theorem nodup_identifiers_of_parameterNames (h : build maxDepth document = .ok t) {c : Command}
    (hc : c ∈ t.walk) : (c.parameterNames.map Naming.identifier).Nodup := by
  obtain ⟨ancestors, siblings, hlevel, hmem⟩ := Level.exists_of_mem_walk hc
  exact ((hlevel.sound_of_build h).each c hmem).identifiers

end CommandTree

end CliGen
