import CliGen.Proofs.Tree.Recursion
import CliGen.Proofs.Tree.Siblings

/-!
# Where commands stand

In a tree that has been read, siblings have different names, every command knows the path above it,
and no path is longer than the ceiling. So the paths of a tree are pairwise different
(`nodup_paths_of_build`), and the ceiling bounds its depth (`depth_lt_of_build`). What is known of a
tree that was built comes from the readings it was put together from (`parts_of_build`).
-/

namespace CliGen

open Outcome

/-- A forest stands below a path: siblings have different names, every command knows the path above
it, and no path has more than `limit` segments. -/
inductive Placed (limit : Nat) : List String → List Command → Prop where
  | nil (path : List String) : Placed limit path []
  | cons {path : List String} {c : Command} {cs : List Command} (fits : path.length < limit)
      (parentPath_eq : c.parentPath = path) (name_notMem : c.name ∉ cs.map (·.name))
      (below : Placed limit (path ++ [c.name]) c.subcommands) (beside : Placed limit path cs) :
      Placed limit path (c :: cs)

namespace Placed

variable {limit : Nat} {path : List String} {cs : List Command}

/-- Paths lead through a command at the top of the forest. -/
theorem exists_path_eq (h : Placed limit path cs) {d : Command} (hd : d ∈ walkPending cs) :
    ∃ c ∈ cs, ∃ rest, d.path = path ++ c.name :: rest := by
  induction h with
  | nil => simp at hd
  | @cons path c cs _ hpath _ _ _ below beside =>
    rw [walkPending_cons, List.mem_cons, List.mem_append] at hd
    rcases hd with rfl | hd | hd
    · exact ⟨d, by simp, [], by rw [Command.path, hpath]⟩
    · obtain ⟨e, -, rest, he⟩ := below hd
      exact ⟨c, by simp, e.name :: rest, by rw [he, List.append_assoc, List.singleton_append]⟩
    · obtain ⟨e, hmem, rest, he⟩ := beside hd
      exact ⟨e, by simp [hmem], rest, he⟩

/-- No two commands have the same path. -/
theorem nodup_paths (h : Placed limit path cs) : ((walkPending cs).map (·.path)).Nodup := by
  induction h with
  | nil => simp
  | @cons path c cs _ hpath hname hbelow hbeside below beside =>
    have hc : c.path = path ++ [c.name] := by rw [Command.path, hpath]
    rw [walkPending_cons, List.map_cons, List.map_append, List.nodup_cons, List.nodup_append]
    refine ⟨?_, below, beside, ?_⟩
    · -- Paths below are longer, and paths beside lead through another name.
      intro hmem
      rcases List.mem_append.1 hmem with hmem | hmem <;> obtain ⟨d, hd, heq⟩ := List.mem_map.1 hmem
      · obtain ⟨e, -, rest, he⟩ := hbelow.exists_path_eq hd
        simp [he, hc] at heq
      · obtain ⟨e, hmem, rest, he⟩ := hbeside.exists_path_eq hd
        rw [he, hc, List.append_cancel_left_eq, List.cons.injEq] at heq
        exact hname (List.mem_map.2 ⟨e, hmem, heq.1⟩)
    · rintro p hp q hq rfl
      obtain ⟨d, hd, rfl⟩ := List.mem_map.1 hp
      obtain ⟨f, hf, heq⟩ := List.mem_map.1 hq
      obtain ⟨e, -, rest, he⟩ := hbelow.exists_path_eq hd
      obtain ⟨g, hmem, more, hg⟩ := hbeside.exists_path_eq hf
      rw [he, hg, List.append_assoc, List.append_cancel_left_eq, List.singleton_append,
        List.cons.injEq] at heq
      exact hname (List.mem_map.2 ⟨g, hmem, heq.1⟩)

/-- Commands lie above the limit. -/
theorem depth_lt (h : Placed limit path cs) {d : Command} (hd : d ∈ walkPending cs) :
    d.depth < limit := by
  induction h with
  | nil => simp at hd
  | @cons path c cs hfits hpath _ _ _ below beside =>
    rw [walkPending_cons, List.mem_cons, List.mem_append] at hd
    rcases hd with rfl | hd | hd
    · rwa [Command.depth, hpath]
    · exact below hd
    · exact beside hd

end Placed

namespace Build

/-- Commands have the names of their entries. -/
theorem names_of_mapM {limit : Nat} {path : List String} {entries : List NamedBody}
    {cs : List Command} (h : entries.mapM (readNested limit path) = .ok cs) :
    cs.map (·.name) = entries.map (·.1) := by
  rw [mapM_eq_ok] at h
  induction h with
  | nil => rfl
  | cons hc _ ih => rw [List.map_cons, List.map_cons, ih, (readNested_ok hc).2.1]

/-- Siblings that are read stand below their path. -/
theorem placed_of_mapM {limit : Nat} {path : List String} {entries : List NamedBody}
    {cs : List Command} (hnames : (entries.map (·.1)).Nodup)
    (h : entries.mapM (readNested limit path) = .ok cs) : Placed limit path cs := by
  induction hroom : limit - path.length using Nat.strongRecOn generalizing path entries cs with
  | _ room deeper =>
  induction entries generalizing cs with
  | nil => cases h; exact .nil path
  | cons e es beside =>
    obtain ⟨c, ds, hc, hds, rfl⟩ := List.forall₂_cons_left_iff.1 (mapM_eq_ok.1 h)
    replace hds := mapM_eq_ok.2 hds
    rw [List.map_cons, List.nodup_cons] at hnames
    obtain ⟨hfits, hname, hparent, below, hbelow, hsubs⟩ := readNested_ok hc
    have hlt : limit - (path ++ [e.1]).length < room := by
      simp only [List.length_append, List.length_singleton]
      exact hroom ▸ Nat.sub_succ_lt_self _ _ hfits
    refine .cons hfits hparent ?_ ?_ (beside hnames.2 hds)
    · rw [names_of_mapM hds, hname]
      exact hnames.1
    · rw [hname]
      exact deeper _ hlt (Siblings.nodup_names_of_collect hbelow) hsubs rfl

end Build

namespace CommandTree

/-- What a tree is built of: the section of the document for the command line, what is read there of
the command line itself, and the commands of the entries that stand there. -/
theorem parts_of_build {maxDepth : Nat} {document : Value} {t : CommandTree}
    (h : build maxDepth document = .ok t) : ∃ fields head entries,
      cliSection? document = some fields ∧ Build.readHead fields = .ok head ∧
        Siblings.collect (fields.get? "commands") "commands" [] = .ok entries ∧
          entries.mapM (Build.readNested (max maxDepth 1) []) = .ok t.commands ∧
            t = { head with commands := t.commands } := by
  rw [build_eq_buildNested, buildNested] at h
  split at h
  next fields hfields =>
    obtain ⟨head, hhead, h⟩ := bind_eq_ok.1 h
    obtain ⟨entries, hentries, h⟩ := bind_eq_ok.1 h
    obtain ⟨commands, hcommands, h⟩ := bind_eq_ok.1 h
    cases h
    exact ⟨fields, head, entries, hfields, hhead, hentries, hcommands, rfl⟩
  next => cases h

/-- The command line of a tree has a name. -/
theorem isName_of_build {maxDepth : Nat} {document : Value} {t : CommandTree}
    (h : build maxDepth document = .ok t) : Field.isName t.cliName = true := by
  obtain ⟨fields, head, -, -, hhead, -, -, ht⟩ := parts_of_build h
  rw [ht]
  exact (Build.readHead_ok hhead).1

/-- The commands at the top of a tree are those of a container of siblings. -/
theorem commands_of_build {maxDepth : Nat} {document : Value} {t : CommandTree}
    (h : build maxDepth document = .ok t) : ∃ container entries,
      Siblings.collect container "commands" [] = .ok entries ∧
        entries.mapM (Build.readNested (max maxDepth 1) []) = .ok t.commands := by
  obtain ⟨fields, head, entries, -, -, hentries, hcommands, -⟩ := parts_of_build h
  exact ⟨_, entries, hentries, hcommands⟩

/-- The commands of a tree lie where their paths say, above the limit. -/
theorem placed_of_build {maxDepth : Nat} {document : Value} {t : CommandTree}
    (h : build maxDepth document = .ok t) : Placed (max maxDepth 1) [] t.commands := by
  obtain ⟨container, entries, hentries, hcommands⟩ := commands_of_build h
  exact Build.placed_of_mapM (Siblings.nodup_names_of_collect hentries) hcommands

/-- Trees are as deep as the longest path of a command. -/
theorem maxDepth_le_iff (t : CommandTree) (m : Nat) :
    t.maxDepth ≤ m ↔ ∀ c ∈ t.walk, c.depth < m := by
  have hfoldl (l : List Nat) (b : Nat) : l.foldl max b ≤ m ↔ b ≤ m ∧ ∀ n ∈ l, n ≤ m := by
    induction l generalizing b with
    | nil => simp
    | cons n l ih => simp only [List.foldl_cons, ih, Nat.max_le, List.forall_mem_cons, and_assoc]
  simp only [maxDepth, hfoldl, Nat.zero_le, true_and, List.forall_mem_map, Nat.add_one_le_iff]

/-- The ceiling bounds the depth of a tree. -/
theorem depth_lt_of_build {maxDepth : Nat} {document : Value} {t : CommandTree}
    (h : build maxDepth document = .ok t) {c : Command} (hc : c ∈ t.walk) :
    c.depth < max maxDepth 1 :=
  (placed_of_build h).depth_lt hc

/-- The paths of a tree are pairwise different. -/
theorem nodup_paths_of_build {maxDepth : Nat} {document : Value} {t : CommandTree}
    (h : build maxDepth document = .ok t) : (t.walk.map (·.path)).Nodup :=
  (placed_of_build h).nodup_paths

end CommandTree

end CliGen
