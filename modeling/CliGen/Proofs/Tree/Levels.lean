import CliGen.Proofs.Tree.Placement

/-!
# Levels of a tree

A level is a list of siblings together with the commands above them (`CommandTree.Level`). Every
command of the walk stands on a level (`Level.exists_of_mem_walk`), and every level of a tree that
has been read comes from one container below the path of the commands above
(`Level.container_of_build`). So a fact about one container is a fact about every level.
-/

namespace CliGen

open Outcome

/-- Some siblings of a tree, and the commands above them from the top down. -/
inductive CommandTree.Level (t : CommandTree) : List Command → List Command → Prop where
  | top : Level t [] t.commands
  | descend {ancestors siblings : List Command} {c : Command} (above : Level t ancestors siblings)
      (mem : c ∈ siblings) : Level t (ancestors ++ [c]) c.subcommands

/-- Commands are among those that are walked from them. -/
theorem subset_walkPending (cs : List Command) : cs ⊆ walkPending cs := by
  induction cs with
  | nil => simp
  | cons c cs ih =>
    intro d hd
    rw [walkPending_cons, List.mem_cons, List.mem_append]
    rcases List.mem_cons.1 hd with rfl | hd
    · exact .inl rfl
    · exact .inr (.inr (ih hd))

/-- The walk passes a command and then all that lies below it. -/
theorem walkPending_sublist {cs : List Command} {c : Command} (hc : c ∈ walkPending cs) :
    (c :: walkPending c.subcommands).Sublist (walkPending cs) := by
  induction cs using forest_induction with
  | nil => simp at hc
  | cons d ds below beside =>
    rw [walkPending_cons, List.mem_cons, List.mem_append] at hc
    rw [walkPending_cons]
    rcases hc with rfl | hc | hc
    · exact (List.sublist_append_left _ _).cons_cons _
    · exact ((below hc).trans (List.sublist_append_left _ _)).cons _
    · exact ((beside hc).trans (List.sublist_append_right _ _)).cons _

/-- The walk passes a command before any command right below it. -/
theorem pair_sublist_walkPending {cs : List Command} {p c : Command} (hp : p ∈ walkPending cs)
    (hc : c ∈ p.subcommands) : [p, c].Sublist (walkPending cs) := by
  have hbelow : [c].Sublist (walkPending p.subcommands) :=
    List.singleton_sublist.2 (subset_walkPending _ hc)
  exact (hbelow.cons_cons p).trans (walkPending_sublist hp)

namespace CommandTree.Level

variable {t : CommandTree} {ancestors siblings : List Command}

/-- Every command of a level is one of the walk. -/
theorem mem_walk (h : t.Level ancestors siblings) {c : Command} (hc : c ∈ siblings) :
    c ∈ t.walk := by
  induction h generalizing c with
  | top => exact subset_walkPending _ hc
  | descend _ mem ih =>
    have hpair := pair_sublist_walkPending (ih mem) hc
    exact hpair.subset (by simp)

/-- Every command of the walk stands on a level. -/
theorem exists_of_mem_walk {c : Command} (hc : c ∈ t.walk) :
    ∃ ancestors siblings, t.Level ancestors siblings ∧ c ∈ siblings := by
  suffices hforest : ∀ (cs ancestors siblings : List Command), t.Level ancestors siblings →
      cs ⊆ siblings → c ∈ walkPending cs →
        ∃ ancestors siblings, t.Level ancestors siblings ∧ c ∈ siblings from
    hforest t.commands [] t.commands .top (List.Subset.refl _) hc
  intro cs
  induction cs using forest_induction with
  | nil => simp
  | cons d ds below beside =>
    intro ancestors siblings hlevel hsub hmem
    rw [List.cons_subset] at hsub
    rw [walkPending_cons, List.mem_cons, List.mem_append] at hmem
    rcases hmem with rfl | hmem | hmem
    · exact ⟨ancestors, siblings, hlevel, hsub.1⟩
    · exact below _ _ (hlevel.descend hsub.1) (List.Subset.refl _) hmem
    · exact beside _ _ hlevel hsub.2 hmem

variable {maxDepth : Nat} {document : Value}

/-- Every level is read from one container, below the path of the commands above it. -/
theorem container_of_build (hbuild : build maxDepth document = .ok t)
    (h : t.Level ancestors siblings) : ∃ container field entries,
      Siblings.collect container field (ancestors.map (·.name)) = .ok entries ∧
        entries.mapM (Build.readNested (max maxDepth 1) (ancestors.map (·.name))) =
          .ok siblings := by
  induction h with
  | top =>
    obtain ⟨container, entries, hentries, hcommands⟩ := commands_of_build hbuild
    exact ⟨container, "commands", entries, hentries, hcommands⟩
  | descend _ mem ih =>
    obtain ⟨_, _, entries, -, hread⟩ := ih
    obtain ⟨e, -, hc⟩ := exists_of_mem_mapM hread mem
    obtain ⟨-, hname, -, below, hbelow, hsubs⟩ := Build.readNested_ok hc
    rw [List.map_append, List.map_singleton, hname]
    exact ⟨_, "subcommands", below, hbelow, hsubs⟩

end CommandTree.Level

end CliGen
