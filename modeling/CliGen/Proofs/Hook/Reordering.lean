import CliGen.Proofs.Hook.Settled
import CliGen.Proofs.Tree.Reordering

/-!
# Hooks where siblings change places

Names are grouped in the order of the walk, and the index tells the first clash, but which names
clash and which are given up is a matter of the commands alone: trees that differ only in the order
of siblings both have an index or neither, and the indexes bind the same to every path
(`Index.build_reordered`).
-/

namespace CliGen.Hook

open Build

namespace Resolver

variable {r : Resolver} {t u : CommandTree}

/-- What some command of a tree is like, apart from those below it, some command is like in every
order of the tree's siblings. -/
private theorem exists_mem_walk_congr (h : (t.walk.map bare).Perm (u.walk.map bare))
    {p : Command → Prop} (hp : ∀ c, p (bare c) ↔ p c) :
    (∃ c ∈ t.walk, p c) ↔ ∃ c ∈ u.walk, p c := by
  have hbare (v : CommandTree) : (∃ b ∈ v.walk.map bare, p b) ↔ ∃ c ∈ v.walk, p c := by
    simp only [List.mem_map, exists_exists_and_eq_and, hp]
  rw [← hbare, ← hbare]
  exact exists_congr fun b => and_congr_left fun _ => h.mem_iff

/-- Whether a command gives up its name does not depend on the order of siblings. -/
theorem givesUp_congr (h : (t.walk.map bare).Perm (u.walk.map bare)) (c : Command) :
    r.GivesUp t c ↔ r.GivesUp u c :=
  and_congr (exists_mem_walk_congr h fun _ => Iff.rfl) (exists_mem_walk_congr h fun _ => Iff.rfl)

/-- What is bound to the commands of a tree does not depend on the order of siblings. -/
theorem perm_settledBinding (h : (t.walk.map bare).Perm (u.walk.map bare)) :
    (t.walk.map (r.settledBinding t)).Perm (u.walk.map (r.settledBinding u)) := by
  have hsame : r.settledBinding t = r.settledBinding u := by
    funext c
    simp only [settledBinding, givesUp_congr h]
  have hbare (v : CommandTree) : v.walk.map (r.settledBinding u) =
      (v.walk.map bare).map (r.settledBinding u) := by
    rw [List.map_map]
    rfl
  rw [hsame, hbare, hbare]
  exact h.map _

end Resolver

namespace Index

open Resolver

/-- A binding is found by its path where all paths are different. -/
theorem get?_eq_some_iff {index : Index} (hpaths : (index.bindings.map (·.path)).Nodup)
    {path : List String} {b : Binding} :
    index.get? path = some b ↔ b ∈ index.bindings ∧ b.path = path := by
  constructor
  · intro h
    exact ⟨List.mem_of_find?_eq_some h, by simpa using List.find?_some h⟩
  · rintro ⟨hb, rfl⟩
    have hfound : (index.get? b.path).isSome = true := List.find?_isSome.2 ⟨b, hb, by simp⟩
    obtain ⟨d, hd⟩ := Option.isSome_iff_exists.1 hfound
    have hpath : d.path = b.path := by simpa using List.find?_some hd
    rw [hd, List.inj_on_of_nodup_map hpaths (List.mem_of_find?_eq_some hd) hb hpath]

/-- Indexes with the same bindings bind the same to every path. -/
theorem get?_congr {i j : Index} (hpaths : (i.bindings.map (·.path)).Nodup)
    (h : i.bindings.Perm j.bindings) (path : List String) : i.get? path = j.get? path := by
  have hpaths' : (j.bindings.map (·.path)).Nodup := (h.map _).nodup_iff.1 hpaths
  refine Option.ext fun b => ?_
  rw [get?_eq_some_iff hpaths, get?_eq_some_iff hpaths', h.mem_iff]

/-- Trees that differ only in the order of siblings both have an index or neither, and the indexes
bind the same to every path. -/
theorem build_reordered {maxDepth maxDepth' : Nat} {document document' : Value}
    {t u : CommandTree} (ht : CommandTree.build maxDepth document = .ok t)
    (hu : CommandTree.build maxDepth' document' = .ok u) (h : Reordered t.commands u.commands)
    (naming : NamingConvention) (threshold : Nat) :
    let r := Resolver.make naming threshold
    ((∃ i, build t r = .ok i) ↔ ∃ j, build u r = .ok j) ∧
    ∀ i j, build t r = .ok i → build u r = .ok j →
      i.bindings.Perm j.bindings ∧ (∀ path, i.get? path = j.get? path) ∧
      ∀ c ∈ t.walk, (i.get? c.path).isSome := by
  intro r
  have hpaths := CommandTree.nodup_paths_of_build ht
  have hpaths' := CommandTree.nodup_paths_of_build hu
  have hbindings : (t.walk.map (r.settledBinding t)).Perm (u.walk.map (r.settledBinding u)) :=
    perm_settledBinding h.walk_perm
  refine ⟨?_, fun i j hi hj => ?_⟩
  · simp only [build_eq_ok_iff hpaths, build_eq_ok_iff hpaths', exists_and_left, exists_eq,
      and_true, ← map_definedName]
    exact (hbindings.map _).nodup_iff
  · have hfound : ∀ c ∈ t.walk, (i.get? c.path).isSome := fun c hc => by
      rw [get?_of_build hpaths hi hc, Option.isSome_some]
    obtain ⟨-, rfl⟩ := (build_eq_ok_iff hpaths).1 hi
    obtain ⟨-, rfl⟩ := (build_eq_ok_iff hpaths').1 hj
    have hown : ((t.walk.map (r.settledBinding t)).map (·.path)).Nodup := by
      rw [List.map_map]
      exact hpaths
    exact ⟨hbindings, get?_congr hown hbindings, hfound⟩

/-- A command of two below it and one beside it, in the given order or in the other. -/
def siblings (given : Bool) : Value :=
  let inOrder (fields : Fields) : Value := .object (if given then fields else fields.reverse)
  let leaf := .object [("desc", .str "Stop here")]
  let group := .object [("desc", .str "Go on"), ("subcommands", inOrder [("b", leaf), ("c", leaf)])]
  .object [("name", .str "tool"), ("commands", inOrder [("a", group), ("a-d", leaf)])]

/-- Commands that take nothing, and that say the same of themselves. -/
private def agree (c d : Command) : Bool :=
  c.name == d.name && c.description == d.description && c.icon == d.icon &&
  c.aliases == d.aliases && c.hidden == d.hidden && c.lifecycle == d.lifecycle &&
  c.parentPath == d.parentPath && (c.arguments ++ d.arguments).isEmpty &&
  (c.options ++ d.options).isEmpty

private theorem bare_eq_of_agree {c d : Command} (h : agree c d = true) : bare c = bare d := by
  cases c
  cases d
  simp only [agree, Bool.and_eq_true, beq_iff_eq, List.isEmpty_iff, List.append_eq_nil_iff] at h
  simp [bare, h]

/-- Two commands have changed places, and so have those below them, some levels down. -/
private def exchanged : Nat → List Command → List Command → Bool
  | levels + 1, [c, d], [d', c'] =>
    agree c c' && exchanged levels c.subcommands c'.subcommands &&
      (agree d d' && exchanged levels d.subcommands d'.subcommands)
  | _, cs, ds => (cs ++ ds).isEmpty

private theorem reordered_of_exchanged {levels : Nat} {cs ds : List Command}
    (h : exchanged levels cs ds = true) : Reordered cs ds := by
  induction levels, cs, ds using exchanged.induct with
  | case1 levels c d d' c' belowC belowD =>
    rw [exchanged] at h
    simp only [Bool.and_eq_true] at h
    obtain ⟨⟨hc, hcs⟩, hd, hds⟩ := h
    exact (Reordered.cons (bare_eq_of_agree hc) (belowC hcs)
      (.cons (bare_eq_of_agree hd) (belowD hds) .nil)).trans (.swap c' d' [])
  | case2 levels cs ds hother =>
    rw [exchanged, List.isEmpty_iff, List.append_eq_nil_iff] at h
    · rw [h.1, h.2]
      exact .nil
    · exact hother

/-- Siblings in either order get the same bindings. -/
theorem build_reordered_siblings : ∃ t u i j, CommandTree.build 5 (siblings true) = .ok t ∧
    CommandTree.build 5 (siblings false) = .ok u ∧ Reordered t.commands u.commands ∧
    build t (.make .camel 3) = .ok i ∧ build u (.make .camel 3) = .ok j ∧
    ∀ path, i.get? path = j.get? path := by
  have hexchanged : (CommandTree.build 5 (siblings true)).toOption.any (fun t =>
      (build t (.make .camel 3)).toOption.any fun _ =>
        (CommandTree.build 5 (siblings false)).toOption.any fun u =>
          exchanged 2 t.commands u.commands) = true := by
    decide +kernel
  simp only [Option.any_eq_true, Outcome.toOption_eq_some] at hexchanged
  obtain ⟨t, ht, i, hi, u, hu, hexchanged⟩ := hexchanged
  have hreordered := reordered_of_exchanged hexchanged
  obtain ⟨hboth, hsame⟩ := build_reordered ht hu hreordered .camel 3
  obtain ⟨j, hj⟩ := hboth.1 ⟨i, hi⟩
  exact ⟨t, u, i, j, ht, hu, hreordered, hi, hj, (hsame i j hi hj).2.1⟩

end Index

end CliGen.Hook
