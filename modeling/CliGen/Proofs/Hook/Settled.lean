import CliGen.Proofs.Hook.Groups
import CliGen.Proofs.Tree.Placement

/-!
# The names that stubs define

A command starts from one name, which its path alone gives. It gives that name up for the name of
its whole path where another command starts from the same name and the path of one of those that do
is long (`Resolver.settledName`). The index of a tree is exact about these names: it binds them
where they are pairwise different, and else it tells the first that is shared (`Index.build_exact`).

## Shape of the proof

Grouping the first bindings and rewriting the groups that are given up is a map over the walk
(`Index.settle_eq`), so that grouping again looks for the first shared name of that map. What a
command is bound to is then read off one binding (`Resolver.settled_settledBinding`).
-/

namespace CliGen.Hook

/-! ## Candidates -/

/-- The first and the last segment of a path. -/
def Strategy.ends (path : List String) : List String := path.head?.toList ++ path.getLast?.toList

/-- A long path is abbreviated to its ends. -/
theorem Strategy.segments?_abbreviated {path : List String} (h : 2 < path.length) :
    segments? path abbreviated = some (ends path) := by
  match path with
  | first :: second :: last :: rest =>
    rw [ends, List.getLast?_cons_cons, List.getLast?_cons_cons,
      List.getLast?_eq_some_getLast (List.cons_ne_nil last rest)]
    rfl

/-- A path of two segments is its own ends. -/
theorem Strategy.ends_of_length_eq {path : List String} (h : path.length = 2) :
    ends path = path := by
  match path with
  | [_, _] => rfl

namespace Resolver

/-- What a strategy makes of a path is among the candidates. -/
theorem mem_candidates {r : Resolver} {path segments : List String} {step : Strategy}
    (h : step.segments? path = some segments) : r.naming.callable segments ∈ r.candidates path := by
  refine List.mem_eraseDups.2 (List.mem_filterMap.2 ⟨step, by cases step <;> decide, ?_⟩)
  cases step with
  | generic => cases h
  | exact | abbreviated | namespaced => exact congrArg (Option.map r.naming.callable) h

/-- The exact name is among the candidates. -/
theorem exact_mem_candidates {r : Resolver} {path : List String} (h : path ≠ []) :
    r.naming.callable path ∈ r.candidates path :=
  mem_candidates (show Strategy.exact.segments? path = some path by simp [Strategy.segments?, h])

/-- The exact name is among the candidates for a controller. -/
theorem exact_mem_controllerCandidates {r : Resolver} {path : List String} (h : path ≠ []) :
    r.naming.controller path ∈ r.controllerCandidates path := by
  refine List.mem_eraseDups.2 (List.mem_filterMap.2 ⟨.exact, by decide, ?_⟩)
  simp [Strategy.segments?, h]

/-- The first name of a stub: that of the path's ends where the path is long. -/
theorem canonical_eq {r : Resolver} (hr : 1 ≤ r.threshold) (path : List String) :
    r.canonical path =
      r.naming.callable (if r.threshold < path.length then Strategy.ends path else path) := by
  unfold canonical
  split
  next h =>
    dsimp only
    rcases Nat.lt_or_eq_of_le (Nat.lt_of_le_of_lt hr h) with hlong | htwo
    · rw [Strategy.segments?_abbreviated hlong, Option.getD_some]
    · match path with
      | [_, _] => rfl
  next =>
    dsimp only
    rw [Strategy.segments?]
    split <;> rfl

/-- The canonical name is among the candidates. -/
theorem canonical_mem_candidates {r : Resolver} {path : List String} (h : path ≠ []) :
    r.canonical path ∈ r.candidates path := by
  unfold canonical
  extract_lets step
  cases hstep : step.segments? path with
  | none => exact exact_mem_candidates h
  | some segments => exact mem_candidates hstep

/-! ## Settled names -/

/-- The name that a command starts from. -/
def initialName (r : Resolver) (c : Command) : String := (r.bindingFor c).definedName

/-- The name that a command's whole path gives. -/
def exactName (r : Resolver) (c : Command) : String :=
  if c.lifecycle.isManaged then r.naming.controller c.path else r.naming.callable c.path

/-- A command gives up the name it starts from: another command starts from it, and one of those
that do has a path longer than the threshold. -/
def GivesUp (r : Resolver) (t : CommandTree) (c : Command) : Prop :=
  (∃ d ∈ t.walk, d.path ≠ c.path ∧ r.initialName d = r.initialName c) ∧
    ∃ d ∈ t.walk, r.initialName d = r.initialName c ∧ r.threshold < d.path.length

instance (r : Resolver) (t : CommandTree) (c : Command) : Decidable (r.GivesUp t c) :=
  inferInstanceAs (Decidable (_ ∧ _))

/-- The name that a command's stub defines in the end. -/
def settledName (r : Resolver) (t : CommandTree) (c : Command) : String :=
  if r.GivesUp t c then r.exactName c else r.initialName c

/-- What is bound to a command in the end. -/
def settledBinding (r : Resolver) (t : CommandTree) (c : Command) : Binding where
  path := c.path
  canonical := if r.GivesUp t c then r.naming.callable c.path else r.canonical c.path
  candidates := r.candidates c.path
  controller := if c.lifecycle.isManaged then some (r.controller c.path) else none

variable {r : Resolver} {t : CommandTree} {c : Command}

/-- A controller goes by its exact name. -/
theorem initialName_of_managed (h : c.lifecycle.isManaged = true) :
    r.initialName c = r.naming.controller c.path := by
  simp [initialName, bindingFor, binding, Binding.definedName, controller, h]

/-- A callable goes by its canonical name at first. -/
theorem initialName_of_standard (h : c.lifecycle.isManaged = false) :
    r.initialName c = r.canonical c.path := by
  simp [initialName, bindingFor, binding, Binding.definedName, h]

/-- A binding is managed if its command is. -/
theorem isManaged_settledBinding : (r.settledBinding t c).isManaged = c.lifecycle.isManaged := by
  cases h : c.lifecycle.isManaged <;> simp [settledBinding, Binding.isManaged, h]

/-- A callable is defined under its canonical name. -/
theorem definedName_of_standard (h : c.lifecycle.isManaged = false) :
    (r.settledBinding t c).definedName = (r.settledBinding t c).canonical := by
  simp [settledBinding, Binding.definedName, h]

/-- A binding defines the name that its command is settled with. -/
theorem definedName_settledBinding : (r.settledBinding t c).definedName = r.settledName t c := by
  cases h : c.lifecycle.isManaged with
  | true =>
    rw [settledName, initialName_of_managed h, exactName, if_pos h, ite_self]
    simp [settledBinding, Binding.definedName, controller, h]
  | false =>
    rw [settledName, initialName_of_standard h, exactName, definedName_of_standard h]
    simp [settledBinding, h]

/-- What the index of a tree binds to one of its commands. -/
structure Settled (r : Resolver) (t : CommandTree) (c : Command) (b : Binding) : Prop where
  path_eq : b.path = c.path
  isManaged_eq : b.isManaged = c.lifecycle.isManaged
  definedName_eq : b.definedName = r.settledName t c
  candidates_eq : b.candidates = r.candidates c.path
  definedName_mem : b.isManaged = false → b.definedName ∈ b.candidates
  controller_mem : ∀ k, b.controller = some k → b.definedName ∈ k.candidates
  /-- The callable of a standard command is that of its whole path, unless the path is long and no
  other command starts from the name of its ends. -/
  canonical_eq : b.isManaged = false → b.canonical =
    r.naming.callable (if r.threshold < c.path.length ∧
      (∀ d ∈ t.walk, d.path ≠ c.path → r.initialName d ≠ r.naming.callable (Strategy.ends c.path))
      then Strategy.ends c.path else c.path)

/-- The binding of a command is settled in every part. -/
theorem settled_settledBinding (hr : 1 ≤ r.threshold) (hc : c ∈ t.walk) :
    Settled r t c (r.settledBinding t c) := by
  have hpath : c.path ≠ [] := by simp [Command.path]
  refine ⟨rfl, isManaged_settledBinding, definedName_settledBinding, rfl, ?_, ?_, ?_⟩
  · intro h
    rw [isManaged_settledBinding] at h
    rw [definedName_of_standard h]
    dsimp only [settledBinding]
    split
    · exact exact_mem_candidates hpath
    · exact canonical_mem_candidates hpath
  · intro k hk
    simp only [settledBinding, Option.ite_none_right_eq_some, Option.some.injEq] at hk
    obtain ⟨h, rfl⟩ := hk
    rw [definedName_settledBinding, settledName, initialName_of_managed h, exactName, if_pos h,
      ite_self]
    exact exact_mem_controllerCandidates hpath
  · intro h
    rw [isManaged_settledBinding] at h
    dsimp only [settledBinding]
    by_cases hlong : r.threshold < c.path.length
    · have hname : r.initialName c = r.naming.callable (Strategy.ends c.path) := by
        rw [initialName_of_standard h, canonical_eq hr, if_pos hlong]
      -- The path is long itself, so the name is given up as soon as it is shared.
      have hgives : r.GivesUp t c ↔ ¬ ∀ d ∈ t.walk, d.path ≠ c.path →
          r.initialName d ≠ r.naming.callable (Strategy.ends c.path) := by
        rw [← hname]
        push Not
        exact and_iff_left ⟨c, hc, rfl, hlong⟩
      rw [canonical_eq hr, if_pos hlong]
      by_cases hshared : r.GivesUp t c
      · rw [if_pos hshared, if_neg fun hnot => hgives.1 hshared hnot.2]
      · rw [if_neg hshared, if_pos ⟨hlong, not_not.1 (hgives.not.1 hshared)⟩]
    · rw [canonical_eq hr, if_neg hlong, ite_self, if_neg fun hnot => hlong hnot.1]

end Resolver

namespace Index

open Resolver

variable {r : Resolver} {t : CommandTree}

private theorem two_le_count_iff {α : Type} {l : List α} {path : α → List String}
    (hnodup : (l.map path).Nodup) (key : α → String) {a : α} (ha : a ∈ l) :
    2 ≤ (l.map key).count (key a) ↔ ∃ b ∈ l, path b ≠ path a ∧ key b = key a := by
  obtain ⟨before, after, rfl⟩ := List.append_of_mem ha
  have hpath : ∀ b ∈ before ++ after, path b ≠ path a := by
    intro b hb heq
    rw [List.map_append, List.map_cons, List.nodup_middle, List.nodup_cons, ← List.map_append]
      at hnodup
    exact hnodup.1 (heq ▸ List.mem_map_of_mem hb)
  have hcount : ((before ++ a :: after).map key).count (key a) =
      ((before ++ after).map key).count (key a) + 1 := by
    simp [Nat.add_assoc]
  -- The item counts itself once, so its key comes twice if another item has it.
  rw [hcount, Nat.succ_le_succ_iff, Nat.succ_le_iff, List.count_pos_iff, List.mem_map]
  constructor
  · rintro ⟨b, hb, hkey⟩
    exact ⟨b, by simp at hb ⊢; tauto, hpath b hb, hkey⟩
  · rintro ⟨b, hb, hne, hkey⟩
    refine ⟨b, ?_, hkey⟩
    rcases List.mem_append.1 hb with hb | hb
    · exact List.mem_append_left _ hb
    · exact List.mem_append_right _ ((List.mem_cons.1 hb).resolve_left fun h => hne (h ▸ rfl))

/-- Settling the names of a tree settles the name of each command. -/
theorem settle_eq (hnodup : (t.walk.map (·.path)).Nodup) :
    settle r (t.walk.map r.bindingFor) = t.walk.map (r.settledBinding t) := by
  rw [settle, List.map_map]
  refine List.map_congr_left fun c hc => ?_
  have hgives : ((Group.ofBindings (t.walk.map r.bindingFor)).filter
      (Group.isGivenUp r.threshold)).any (·.name == (r.bindingFor c).definedName) = true ↔
        r.GivesUp t c := by
    rw [Group.any_isGivenUp (List.mem_map_of_mem hc), List.map_map]
    refine and_congr (two_le_count_iff hnodup r.initialName hc) ?_
    simp only [List.mem_map, exists_exists_and_eq_and]
    rfl
  dsimp only [Function.comp_apply]
  by_cases h : r.GivesUp t c
  · rw [if_pos (hgives.2 h), settledBinding, if_pos h]
    rfl
  · rw [if_neg (hgives.not.2 h), settledBinding, if_neg h]
    rfl

/-- The names that bindings define are those that commands are settled with. -/
theorem map_definedName :
    (t.walk.map (r.settledBinding t)).map (·.definedName) = t.walk.map (r.settledName t) := by
  rw [List.map_map]
  exact List.map_congr_left fun c _ => definedName_settledBinding

/-- The index of a tree is built where the settled names are pairwise different. -/
theorem build_eq_ok (hpaths : (t.walk.map (·.path)).Nodup)
    (hnames : (t.walk.map (r.settledName t)).Nodup) :
    build t r = .ok ⟨t.walk.map (r.settledBinding t)⟩ := by
  unfold build
  extract_lets settled
  have hsettled : settled = t.walk.map (r.settledBinding t) := settle_eq hpaths
  rw [hsettled, Group.find?_shared_eq_none.2 (map_definedName ▸ hnames)]

/-- Where settled names are shared, the problem names the first. -/
theorem build_eq_error (hpaths : (t.walk.map (·.path)).Nodup)
    (hnames : ¬ (t.walk.map (r.settledName t)).Nodup) :
    ∃ c d, FirstShared (r.settledName t) t.walk c d ∧
      build t r = .error (.hookNameCollision (r.settledName t c) c.path d.path) := by
  unfold build
  extract_lets settled
  have hsettled : settled = t.walk.map (r.settledBinding t) := settle_eq hpaths
  cases hfind : (Group.ofBindings settled).find? (2 ≤ ·.paths.length) with
  | none =>
    rw [hsettled, Group.find?_shared_eq_none, map_definedName] at hfind
    exact absurd hfind hnames
  | some g =>
    obtain ⟨a, b, rest, rfl, hfirst⟩ := Group.find?_shared_eq_some hfind
    rw [hsettled] at hfirst
    obtain ⟨c, d, rfl, rfl, hcommands⟩ := hfirst.of_map
    refine ⟨c, d, ?_, ?_⟩
    · convert hcommands using 1
      exact funext fun c => definedName_settledBinding.symm
    · rw [definedName_settledBinding]
      rfl

/-- An index is built exactly where the settled names are distinct, and consists of their bindings.
-/
theorem build_eq_ok_iff (hpaths : (t.walk.map (·.path)).Nodup) {index : Index} :
    build t r = .ok index ↔
      (t.walk.map (r.settledName t)).Nodup ∧ index = ⟨t.walk.map (r.settledBinding t)⟩ := by
  by_cases hnames : (t.walk.map (r.settledName t)).Nodup
  · rw [build_eq_ok hpaths hnames, Except.ok.injEq, eq_comm]
    exact (and_iff_right hnames).symm
  · obtain ⟨c, d, -, herror⟩ := build_eq_error hpaths hnames
    simp [herror, hnames]

/-- The index of a tree knows the binding of every command. -/
theorem get?_of_build (hpaths : (t.walk.map (·.path)).Nodup) {index : Index}
    (h : build t r = .ok index) {c : Command} (hc : c ∈ t.walk) :
    index.get? c.path = some (r.settledBinding t c) := by
  obtain ⟨-, rfl⟩ := (build_eq_ok_iff hpaths).1 h
  obtain ⟨before, after, hwalk⟩ := List.append_of_mem hc
  -- No command in front of this one has its path, so its binding is the first that is found.
  rw [hwalk, List.map_append, List.map_cons, List.nodup_middle, List.nodup_cons] at hpaths
  rw [get?, List.find?_map, hwalk, List.find?_append, List.find?_eq_none.2]
  · simp [Function.comp_def, settledBinding]
  · intro d hd heq
    exact hpaths.1 (List.mem_append_left _ (List.mem_map.2 ⟨d, hd, beq_iff_eq.1 heq⟩))

/-- The index of a tree is exact about the names of its stubs. -/
theorem build_exact {maxDepth : Nat} {document : Value} {t : CommandTree}
    (h : CommandTree.build maxDepth document = .ok t) (naming : NamingConvention)
    (threshold : Nat) :
    let r := Resolver.make naming threshold
    (∀ index, build t r = .ok index →
      List.Forall₂ (Settled r t) t.walk index.bindings ∧
        (index.bindings.map (·.definedName)).Nodup) ∧
    ((∃ problem, build t r = .error problem) ↔ ¬ (t.walk.map (r.settledName t)).Nodup) ∧
    ∀ problem, build t r = .error problem → ∃ c d, FirstShared (r.settledName t) t.walk c d ∧
      problem = .hookNameCollision (r.settledName t c) c.path d.path := by
  intro r
  have hr : 1 ≤ r.threshold := Nat.le_max_right threshold 1
  have hpaths := CommandTree.nodup_paths_of_build h
  by_cases hnames : (t.walk.map (r.settledName t)).Nodup
  · rw [build_eq_ok hpaths hnames]
    refine ⟨?_, by simpa using hnames, by simp⟩
    rintro index ⟨⟩
    refine ⟨?_, map_definedName ▸ hnames⟩
    rw [List.forall₂_map_right_iff, List.forall₂_same]
    exact fun c hc => settled_settledBinding hr hc
  · obtain ⟨c, d, hfirst, herror⟩ := build_eq_error hpaths hnames
    rw [herror]
    refine ⟨by simp, by simpa using hnames, ?_⟩
    rintro problem ⟨⟩
    exact ⟨c, d, hfirst, rfl⟩

/-- Two long paths with the same ends, below one command. -/
def sharedEnds : Value :=
  let leaf := .object [("desc", .str "Stop here")]
  let group below := .object [("desc", .str "Go on"), ("subcommands", .object below)]
  .object [("name", .str "tool"), ("commands", .object [("a", group [
    ("b", group [("c", group [("z", leaf)])]), ("d", group [("e", group [("z", leaf)])])])])]

/-- Two long paths that share their ends are both settled with exact names. -/
theorem build_exact_sharedEnds : ∃ t index, CommandTree.build 5 sharedEnds = .ok t ∧
    build t (.make .snake 3) = .ok index ∧
    List.Forall₂ (Settled (.make .snake 3) t) t.walk index.bindings ∧
    (index.bindings.map (·.definedName)).Nodup := by
  have hbuilt : (CommandTree.build 5 sharedEnds >>= fun t =>
      build t (.make .snake 3)).toBool = true := by decide +kernel
  obtain ⟨index, hindex⟩ := Outcome.toBool_eq_true.1 hbuilt
  obtain ⟨t, ht, hindex⟩ := Outcome.bind_eq_ok.1 hindex
  exact ⟨t, index, ht, hindex, (build_exact ht .snake 3).1 index hindex⟩

end Index

end CliGen.Hook
