import CliGen.Proofs.Hook.Settled

/-!
# Names that are fallen back to

Commands whose whole paths have different names can clash all the same: a command that gives up the
name of its ends falls back to the name of its whole path, and that can be the name of the ends of
another command, which keeps it. Names are given up once and not again, so such a clash is not
settled, and it is the only one that such a tree can have (`Index.build_eq_ok_iff_of_exact`).
-/

namespace CliGen.Hook

namespace Resolver

/-- A command falls back to a name that another command keeps: the one gives up the name of its ends
for that of its whole path, which is the name of the other one's ends. -/
structure FallsOnto (r : Resolver) (t : CommandTree) (c d : Command) : Prop where
  standard : c.lifecycle.isManaged = false ∧ d.lifecycle.isManaged = false
  long : r.threshold < c.path.length ∧ r.threshold < d.path.length
  /-- A third command starts from the name of the first one's ends. -/
  shared : ∃ e ∈ t.walk, e.path ≠ c.path ∧
    r.initialName e = r.naming.callable (Strategy.ends c.path)
  /-- No other command starts from the name of the second one's ends. -/
  kept : ∀ e ∈ t.walk, e.path ≠ d.path →
    r.initialName e ≠ r.naming.callable (Strategy.ends d.path)
  meets : r.naming.callable c.path = r.naming.callable (Strategy.ends d.path)

variable {r : Resolver} {t : CommandTree} {c d : Command}

/-! ## Who gives up a name -/

/-- A callable with a long path is first named by its ends. -/
theorem initialName_of_long (hr : 1 ≤ r.threshold) (hc : c.lifecycle.isManaged = false)
    (hlong : r.threshold < c.path.length) :
    r.initialName c = r.naming.callable (Strategy.ends c.path) := by
  rw [initialName_of_standard hc, canonical_eq hr, if_pos hlong]

/-- Only a standard command with a long path starts from another name than that of its whole
path. -/
theorem standard_and_long_of_ne (hr : 1 ≤ r.threshold) (hne : r.initialName c ≠ r.exactName c) :
    c.lifecycle.isManaged = false ∧ r.threshold < c.path.length := by
  cases hm : c.lifecycle.isManaged with
  | true =>
    rw [initialName_of_managed hm, exactName, if_pos hm] at hne
    exact absurd rfl hne
  | false =>
    refine ⟨rfl, ?_⟩
    by_contra hshort
    rw [initialName_of_standard hm, canonical_eq hr, if_neg hshort, exactName, hm] at hne
    exact hne rfl

/-- A command with a long path gives up its name as soon as another command starts from it. -/
theorem givesUp_iff_of_long (hc : c ∈ t.walk) (hlong : r.threshold < c.path.length) :
    r.GivesUp t c ↔ ∃ e ∈ t.walk, e.path ≠ c.path ∧ r.initialName e = r.initialName c :=
  and_iff_left ⟨c, hc, rfl, hlong⟩

/-- Of two commands that start from one name, both give it up or neither. -/
theorem GivesUp.of_initialName_eq (h : r.GivesUp t c) (hc : c ∈ t.walk) (hne : c.path ≠ d.path)
    (heq : r.initialName c = r.initialName d) : r.GivesUp t d := by
  obtain ⟨-, e, he, hname, hlong⟩ := h
  exact ⟨⟨c, hc, hne, heq⟩, e, he, hname.trans heq, hlong⟩

/-! ## Commands with one name in the end -/

variable (hr : 1 ≤ r.threshold) (hexact : (t.walk.map r.exactName).Nodup)

include hr hexact

/-- Where the names of whole paths are different, two commands that keep their names keep different
ones. -/
theorem initialName_ne_of_kept (hc : c ∈ t.walk) (hd : d ∈ t.walk) (hne : c.path ≠ d.path)
    (hkeeps : ¬ r.GivesUp t c) (hkeeps' : ¬ r.GivesUp t d) :
    r.initialName c ≠ r.initialName d := by
  intro heq
  -- The name is shared and yet kept, so neither path is long.
  have hshort : ∀ e, e = c ∨ e = d → r.initialName e = r.exactName e := by
    rintro e he
    by_contra hdiffers
    have hlong := (standard_and_long_of_ne hr hdiffers).2
    rcases he with rfl | rfl
    · exact hkeeps ((givesUp_iff_of_long hc hlong).2 ⟨d, hd, hne.symm, heq.symm⟩)
    · exact hkeeps' ((givesUp_iff_of_long hd hlong).2 ⟨c, hc, hne, heq⟩)
  rw [hshort c (.inl rfl), hshort d (.inr rfl)] at heq
  exact hne (List.inj_on_of_nodup_map hexact hc hd heq ▸ rfl)

/-- A command that gives up its name and one that keeps its own meet in one way only. -/
theorem fallsOnto_of_exactName_eq (hc : c ∈ t.walk) (hd : d ∈ t.walk) (hne : c.path ≠ d.path)
    (hgives : r.GivesUp t c) (hkeeps : ¬ r.GivesUp t d)
    (heq : r.exactName c = r.initialName d) : FallsOnto r t c d := by
  have hc' : r.initialName c ≠ r.exactName c := fun hsame =>
    hkeeps (hgives.of_initialName_eq hc hne (hsame.trans heq))
  have hd' : r.initialName d ≠ r.exactName d := fun hsame =>
    hne (List.inj_on_of_nodup_map hexact hc hd (heq.trans hsame) ▸ rfl)
  obtain ⟨hstandard, hlong⟩ := standard_and_long_of_ne hr hc'
  obtain ⟨hstandard', hlong'⟩ := standard_and_long_of_ne hr hd'
  rw [givesUp_iff_of_long hc hlong, initialName_of_long hr hstandard hlong] at hgives
  rw [givesUp_iff_of_long hd hlong', initialName_of_long hr hstandard' hlong'] at hkeeps
  rw [initialName_of_long hr hstandard' hlong', exactName, hstandard] at heq
  exact ⟨⟨hstandard, hstandard'⟩, ⟨hlong, hlong'⟩, hgives,
    fun e he hpath hname => hkeeps ⟨e, he, hpath, hname⟩, heq⟩

/-- Two commands that end up with one name: one of them falls back to the name that the other
keeps. -/
theorem fallsOnto_of_settledName_eq (hc : c ∈ t.walk) (hd : d ∈ t.walk) (hne : c.path ≠ d.path)
    (heq : r.settledName t c = r.settledName t d) : FallsOnto r t c d ∨ FallsOnto r t d c := by
  unfold settledName at heq
  by_cases hgives : r.GivesUp t c <;> by_cases hgives' : r.GivesUp t d
  · rw [if_pos hgives, if_pos hgives'] at heq
    exact absurd (List.inj_on_of_nodup_map hexact hc hd heq ▸ rfl) hne
  · rw [if_pos hgives, if_neg hgives'] at heq
    exact .inl (fallsOnto_of_exactName_eq hr hexact hc hd hne hgives hgives' heq)
  · rw [if_neg hgives, if_pos hgives'] at heq
    exact .inr (fallsOnto_of_exactName_eq hr hexact hd hc hne.symm hgives' hgives heq.symm)
  · rw [if_neg hgives, if_neg hgives'] at heq
    exact absurd heq (initialName_ne_of_kept hr hexact hc hd hne hgives hgives')

omit hexact in
/-- Falling back to a name that is kept makes one name of two. -/
theorem FallsOnto.settledName_eq (h : FallsOnto r t c d) (hc : c ∈ t.walk) (hd : d ∈ t.walk) :
    r.settledName t c = r.settledName t d ∧ c ≠ d := by
  have hgives : r.GivesUp t c := by
    rw [givesUp_iff_of_long hc h.long.1, initialName_of_long hr h.standard.1 h.long.1]
    exact h.shared
  have hkeeps : ¬ r.GivesUp t d := by
    rw [givesUp_iff_of_long hd h.long.2, initialName_of_long hr h.standard.2 h.long.2]
    rintro ⟨e, he, hpath, hname⟩
    exact h.kept e he hpath hname
  refine ⟨?_, fun heq => hkeeps (heq ▸ hgives)⟩
  rw [settledName, if_pos hgives, settledName, if_neg hkeeps,
    initialName_of_long hr h.standard.2 h.long.2, exactName, h.standard.1]
  exact h.meets

end Resolver

namespace Index

open Resolver

/-- Where the names of whole paths are pairwise different, the index of a tree is built exactly if
no command falls back to a name that another keeps. -/
theorem build_eq_ok_iff_of_exact {maxDepth : Nat} {document : Value} {t : CommandTree}
    (h : CommandTree.build maxDepth document = .ok t) (naming : NamingConvention)
    (threshold : Nat)
    (hexact : (t.walk.map (Resolver.make naming threshold).exactName).Nodup) :
    (∃ index, build t (.make naming threshold) = .ok index) ↔
      ∀ c ∈ t.walk, ∀ d ∈ t.walk, ¬ FallsOnto (.make naming threshold) t c d := by
  have hr : 1 ≤ (Resolver.make naming threshold).threshold := Nat.le_max_right threshold 1
  have hpaths := CommandTree.nodup_paths_of_build h
  simp only [build_eq_ok_iff hpaths, exists_and_left, exists_eq, and_true]
  rw [List.nodup_map_iff_inj_on hpaths.of_map]
  constructor
  · intro hinj c hc d hd hfalls
    obtain ⟨heq, hne⟩ := hfalls.settledName_eq hr hc hd
    exact hne (hinj c hc d hd heq)
  · intro hnone c hc d hd heq
    by_contra hne
    have hpath : c.path ≠ d.path := fun hpath =>
      hne (List.inj_on_of_nodup_map hpaths hc hd hpath)
    rcases fallsOnto_of_settledName_eq hr hexact hc hd hpath heq with hfalls | hfalls
    · exact hnone c hc d hd hfalls
    · exact hnone d hd c hc hfalls

/-- Two long paths with the same ends, below one command, and a third whose ends have the words of
the first. -/
def crossedEnds : Value :=
  let leaf := .object [("desc", .str "Stop here")]
  let group below := .object [("desc", .str "Go on"), ("subcommands", .object below)]
  .object [("name", .str "tool"), ("commands", .object [("a", group [
    ("b", group [("c", group [("z", leaf)])]), ("d", group [("e", group [("z", leaf)])]),
    ("p", group [("q", group [("b-c-z", leaf)])])])])]

/-- For this tree the names of whole paths in camel case are different, and what a fall-back may
meet decides. -/
theorem build_eq_ok_iff_of_exact_crossedEnds : ∃ t, CommandTree.build 5 crossedEnds = .ok t ∧
    (t.walk.map (Resolver.make .camel 3).exactName).Nodup ∧
    ((∃ index, build t (.make .camel 3) = .ok index) ↔
      ∀ c ∈ t.walk, ∀ d ∈ t.walk, ¬ FallsOnto (.make .camel 3) t c d) := by
  have hdifferent : (CommandTree.build 5 crossedEnds).toOption.any (fun t =>
      decide (t.walk.map (Resolver.make .camel 3).exactName).Nodup) = true := by decide +kernel
  simp only [Option.any_eq_true, Outcome.toOption_eq_some, decide_eq_true_eq] at hdifferent
  obtain ⟨t, ht, hexact⟩ := hdifferent
  exact ⟨t, ht, hexact, build_eq_ok_iff_of_exact ht .camel 3 hexact⟩

/-- The names of all whole paths are different here, and yet the index is refused. -/
theorem build_eq_error_crossedEnds : ∃ t, CommandTree.build 5 crossedEnds = .ok t ∧
    (t.walk.map (Resolver.make .snake 3).exactName).Nodup ∧
    ∃ problem, build t (.make .snake 3) = .error problem := by
  have hrefused : (CommandTree.build 5 crossedEnds).toOption.any (fun t =>
      decide (t.walk.map (Resolver.make .snake 3).exactName).Nodup &&
        !(build t (.make .snake 3)).toBool) = true := by decide +kernel
  simp only [Option.any_eq_true, Outcome.toOption_eq_some, Bool.and_eq_true,
    decide_eq_true_eq] at hrefused
  obtain ⟨t, ht, hexact, hrefused⟩ := hrefused
  refine ⟨t, ht, hexact, ?_⟩
  cases hbuild : build t (.make .snake 3) with
  | error problem => exact ⟨problem, rfl⟩
  | ok index => simp [hbuild, Except.toBool] at hrefused

end Index

end CliGen.Hook
