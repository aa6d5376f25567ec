import CliGen.Proofs.Hook.Settled

/-!
# Which stub a command finds

A generated command line calls the first candidate of a command that some stub defines. That is the
command's own stub, unless the stub of another leaf has the name of the command's whole path
(`Index.found?_eq_own_iff`): the command's own name is then that of its path's ends, which is tried
later. Only the names that stubs define are compared, so the tree `Index.hyphenated` is not
refused.
-/

namespace CliGen.Hook

namespace Index

/-- The callables that stubs define: the names of the leaves. -/
def stubs (index : Index) (t : CommandTree) : List String :=
  (t.walk.filter (·.isLeaf)).filterMap fun c => (index.get? c.path).map (·.definedName)

/-- What a generated command line finds for a binding where the stubs are as generated. -/
def found? (index : Index) (t : CommandTree) (b : Binding) : Option String :=
  b.candidates.find? (· ∈ index.stubs t)

/-- The stub of another leaf has the name of a command's whole path. -/
def Overtaken (index : Index) (t : CommandTree) (naming : NamingConvention) (c : Command) : Prop :=
  ∃ d ∈ t.walk, d.isLeaf ∧ d.path ≠ c.path ∧
    ∃ b, index.get? d.path = some b ∧ b.definedName = naming.callable c.path

open Resolver

variable {r : Resolver} {t : CommandTree} {index : Index} {c : Command}

private theorem standard_of_isLeaf (h : c.isLeaf) : c.lifecycle.isManaged = false := by
  simp only [Command.isLeaf, Bool.and_eq_true, Bool.not_eq_eq_eq_not, Bool.not_true] at h
  exact h.2

private theorem mem_stubs (hpaths : (t.walk.map (·.path)).Nodup) (h : build t r = .ok index)
    {name : String} :
    name ∈ index.stubs t ↔ ∃ d ∈ t.walk, d.isLeaf ∧ r.settledName t d = name := by
  simp only [stubs, List.mem_filterMap, List.mem_filter, and_assoc]
  refine exists_congr fun d => and_congr_right fun hd => and_congr_right fun _ => ?_
  rw [get?_of_build hpaths h hd, Option.map_some, definedName_settledBinding, Option.some.injEq]

private theorem overtaken_iff (hpaths : (t.walk.map (·.path)).Nodup) (h : build t r = .ok index) :
    index.Overtaken t r.naming c ↔ ∃ d ∈ t.walk, d.isLeaf ∧ d.path ≠ c.path ∧
      r.settledName t d = r.naming.callable c.path := by
  refine exists_congr fun d => and_congr_right fun hd => and_congr_right fun _ =>
    and_congr_right fun _ => ?_
  simp [get?_of_build hpaths h hd, definedName_settledBinding]

/-- The candidates of a path start with the name of the whole path. -/
private theorem find?_candidates {path : List String} (hpath : path ≠ []) (p : String → Bool) :
    (r.candidates path).find? p = if p (r.naming.callable path) then
      some (r.naming.callable path)
    else (Strategy.chain.tail.filterMap (r.candidate? path)).find? p := by
  have hexact : r.candidate? path .exact = some (r.naming.callable path) := by
    simp [candidate?, Strategy.segments?, hpath]
  rw [candidates, Group.find?_eraseDups, Strategy.chain, List.filterMap_cons_some hexact,
    List.find?_cons]
  cases p (r.naming.callable path) <;> rfl

/-- A name that is not that of the whole path is that of a long path's ends. -/
private theorem settledName_of_ne (hr : 1 ≤ r.threshold) (hc : c.lifecycle.isManaged = false)
    (hne : r.settledName t c ≠ r.naming.callable c.path) :
    2 < c.path.length ∧ r.settledName t c = r.naming.callable (Strategy.ends c.path) := by
  rw [← definedName_settledBinding, definedName_of_standard hc] at hne ⊢
  dsimp only [settledBinding] at hne ⊢
  rw [canonical_eq hr] at hne ⊢
  split at hne
  next => exact absurd rfl hne
  next hkeeps =>
    rw [if_neg hkeeps]
    split at hne
    next hlong =>
      have htwo : c.path.length ≠ 2 := fun htwo => hne (by rw [Strategy.ends_of_length_eq htwo])
      exact ⟨by omega, by rw [if_pos hlong]⟩
    next => exact absurd rfl hne

/-- What a leaf finds: the stub that has the name of its whole path, if there is one, and else its
own. -/
theorem found?_eq (hpaths : (t.walk.map (·.path)).Nodup) (hr : 1 ≤ r.threshold)
    (h : build t r = .ok index) (hc : c ∈ t.walk) (hleaf : c.isLeaf) :
    index.found? t (r.settledBinding t c) = some (if r.naming.callable c.path ∈ index.stubs t then
      r.naming.callable c.path else r.settledName t c) := by
  have hpath : c.path ≠ [] := by simp [Command.path]
  have hown : r.settledName t c ∈ index.stubs t := (mem_stubs hpaths h).2 ⟨c, hc, hleaf, rfl⟩
  have hcandidates : (r.settledBinding t c).candidates = r.candidates c.path := rfl
  rw [found?, hcandidates, find?_candidates hpath]
  by_cases htaken : r.naming.callable c.path ∈ index.stubs t
  · simp [htaken]
  · -- The command's own name is not the first candidate then, so it is the second.
    have hne : r.settledName t c ≠ r.naming.callable c.path := fun heq => htaken (heq ▸ hown)
    obtain ⟨hlong, hends⟩ := settledName_of_ne hr (standard_of_isLeaf hleaf) hne
    have hnext : r.candidate? c.path .abbreviated = some (r.settledName t c) := by
      rw [hends, candidate?, Strategy.segments?_abbreviated hlong]
      · rfl
      · rintro ⟨⟩
    rw [if_neg (by simpa using htaken), if_neg htaken, Strategy.chain, List.tail_cons,
      List.filterMap_cons_some hnext, List.find?_cons_of_pos (by simpa using hown)]

private theorem found?_iff (hpaths : (t.walk.map (·.path)).Nodup) (hr : 1 ≤ r.threshold)
    (h : build t r = .ok index) (hc : c ∈ t.walk) (hleaf : c.isLeaf) :
    (index.found? t (r.settledBinding t c) = some (r.settledName t c) ↔
      ¬ index.Overtaken t r.naming c) ∧
    (index.Overtaken t r.naming c →
      index.found? t (r.settledBinding t c) = some (r.naming.callable c.path)) := by
  obtain ⟨hnames, -⟩ := (build_eq_ok_iff hpaths).1 h
  have hstubs : r.naming.callable c.path ∈ index.stubs t ↔ ∃ d ∈ t.walk, d.isLeaf ∧
      r.settledName t d = r.naming.callable c.path := mem_stubs hpaths h
  rw [found?_eq hpaths hr h hc hleaf, overtaken_iff hpaths h, Option.some.injEq]
  by_cases hover : ∃ d ∈ t.walk, d.isLeaf ∧ d.path ≠ c.path ∧
      r.settledName t d = r.naming.callable c.path
  · obtain ⟨d, hd, hdleaf, hne, hname⟩ := hover
    have hdiffers : r.naming.callable c.path ≠ r.settledName t c := fun heq =>
      hne (List.inj_on_of_nodup_map hnames hd hc (hname.trans heq) ▸ rfl)
    rw [if_pos (hstubs.2 ⟨d, hd, hdleaf, hname⟩)]
    exact ⟨iff_of_false hdiffers (not_not.2 ⟨d, hd, hdleaf, hne, hname⟩), fun _ => rfl⟩
  · refine ⟨iff_of_true ?_ hover, fun h => absurd h hover⟩
    split
    next htaken =>
      -- Only the leaf itself can have the name of its whole path.
      obtain ⟨d, hd, hdleaf, hname⟩ := hstubs.1 htaken
      have hpath : d.path = c.path := by
        by_contra hne
        exact hover ⟨d, hd, hdleaf, hne, hname⟩
      rw [List.inj_on_of_nodup_map hpaths hd hc hpath] at hname
      exact hname.symm
    next => rfl

/-- A leaf finds its own stub exactly where no other leaf's stub has the name of the leaf's whole
path. Where one has, the leaf finds that one. -/
theorem found?_eq_own_iff {maxDepth : Nat} {document : Value} {t : CommandTree}
    (h : CommandTree.build maxDepth document = .ok t) {naming : NamingConvention}
    {threshold : Nat} {index : Index} (hindex : build t (.make naming threshold) = .ok index)
    {c : Command} (hc : c ∈ t.walk) (hleaf : c.isLeaf) :
    ∃ b, index.get? c.path = some b ∧
      (index.found? t b = some b.definedName ↔ ¬ index.Overtaken t naming c) ∧
      (index.Overtaken t naming c → index.found? t b = some (naming.callable c.path)) := by
  have hpaths := CommandTree.nodup_paths_of_build h
  refine ⟨_, get?_of_build hpaths hindex hc, ?_⟩
  rw [definedName_settledBinding]
  exact found?_iff hpaths (Nat.le_max_right threshold 1) hindex hc hleaf

/-- One of two long paths that share their ends, in a tree that is built. -/
theorem found?_eq_own_iff_sharedEnds : ∃ t index c b, CommandTree.build 5 sharedEnds = .ok t ∧
    build t (.make .snake 3) = .ok index ∧ c ∈ t.walk ∧ c.path = ["a", "b", "c", "z"] ∧
    index.get? c.path = some b ∧
    (index.found? t b = some b.definedName ↔ ¬ index.Overtaken t .snake c) := by
  have hleaf : (CommandTree.build 5 sharedEnds).toOption.any (fun t =>
      (build t (.make .snake 3)).toOption.any fun _ =>
        t.walk.any fun c => c.path = ["a", "b", "c", "z"] && c.isLeaf) = true := by
    decide +kernel
  simp only [Option.any_eq_true, Outcome.toOption_eq_some, List.any_eq_true, Bool.and_eq_true,
    decide_eq_true_eq] at hleaf
  obtain ⟨t, ht, index, hindex, c, hc, hpath, hleaf⟩ := hleaf
  obtain ⟨b, hb, hown, -⟩ := found?_eq_own_iff ht hindex hc hleaf
  exact ⟨t, index, c, b, ht, hindex, hc, hpath, hb, hown⟩

/-- A long path, and a command whose only name has the same words. -/
def hyphenated : Value :=
  let leaf := .object [("desc", .str "Stop here")]
  let group below := .object [("desc", .str "Go on"), ("subcommands", .object below)]
  .object [("name", .str "tool"), ("commands", .object [("a-b-c-d", leaf),
    ("a", group [("b", group [("c", group [("d", leaf)])])])])]

/-- The names of all stubs are different here, and yet the long path finds the other stub. -/
theorem found?_ne_own_hyphenated : ∃ t index c b, CommandTree.build 16 hyphenated = .ok t ∧
    build t (.make .snake 3) = .ok index ∧ c ∈ t.walk ∧ c.isLeaf ∧
    index.get? c.path = some b ∧ b.definedName = "on_a_d" ∧
    index.found? t b = some "on_a_b_c_d" := by
  have hfinds : (CommandTree.build 16 hyphenated).toOption.any (fun t =>
      (build t (.make .snake 3)).toOption.any fun index => t.walk.any fun c =>
        c.isLeaf && (index.get? c.path).any fun b =>
          b.definedName = "on_a_d" && index.found? t b = some "on_a_b_c_d") = true := by
    decide +kernel
  simp only [Option.any_eq_true, Outcome.toOption_eq_some, List.any_eq_true, Bool.and_eq_true,
    decide_eq_true_eq] at hfinds
  obtain ⟨t, ht, index, hindex, c, hc, hleaf, b, hb, hname, hfound⟩ := hfinds
  exact ⟨t, index, c, b, ht, hindex, hc, hleaf, hb, hname, hfound⟩

end Index

end CliGen.Hook
