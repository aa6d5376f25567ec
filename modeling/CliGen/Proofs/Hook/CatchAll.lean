import CliGen.Proofs.Hook.Settled
import CliGen.Proofs.Naming.Words
import CliGen.Proofs.Tree.Names

/-!
# Stubs with the name of the catch-all

The callable that takes every command has a name of its own, but nothing keeps a command away from
it: the stub of a standard command has that name exactly where the segments that its name keeps have
the words `command` and `executed` (`Index.definedName_eq_generic_iff`). One segment can have both
words, two segments can have one each, and so can the ends of a long path.
-/

namespace CliGen.Hook

namespace Resolver

/-- The segments that the callable of a standard command keeps in the end: the ends of a long path,
unless another command starts from their name. -/
def keptSegments (r : Resolver) (t : CommandTree) (c : Command) : List String :=
  if r.threshold < c.path.length ∧
    (∀ d ∈ t.walk, d.path ≠ c.path → r.initialName d ≠ r.naming.callable (Strategy.ends c.path))
  then Strategy.ends c.path else c.path

variable {r : Resolver} {t : CommandTree} {c : Command}

/-- A name is made of steps of the path. -/
theorem keptSegments_subset : r.keptSegments t c ⊆ c.path := by
  unfold keptSegments
  split
  · intro s hs
    rcases List.mem_append.1 hs with hs | hs
    · exact List.mem_of_mem_head? (Option.mem_toList.1 hs)
    · exact List.mem_of_getLast? (Option.mem_toList.1 hs)
  · exact List.Subset.refl _

/-- A stub has the name of a controller, or that of the segments that are kept. -/
theorem definedName_eq (hr : 1 ≤ r.threshold) (hc : c ∈ t.walk) :
    (r.settledBinding t c).definedName =
      if c.lifecycle.isManaged then r.naming.controller c.path
      else r.naming.callable (r.keptSegments t c) := by
  have hsettled := settled_settledBinding hr hc
  cases hm : c.lifecycle.isManaged with
  | true =>
    rw [definedName_settledBinding, settledName, initialName_of_managed hm, exactName, if_pos hm,
      ite_self]
    rfl
  | false =>
    rw [definedName_of_standard hm, hsettled.canonical_eq (hsettled.isManaged_eq.trans hm)]
    rfl

end Resolver

namespace Index

open Resolver

/-- The stub of a command has the name of the callable that takes every command exactly where the
command is standard and the words of the segments that are kept are those of that name. -/
theorem definedName_eq_generic_iff {maxDepth : Nat} {document : Value} {t : CommandTree}
    (h : CommandTree.build maxDepth document = .ok t) {naming : NamingConvention}
    (hnaming : naming = .snake ∨ naming = .camel) {threshold : Nat} {index : Index}
    (hindex : build t (.make naming threshold) = .ok index) {c : Command} (hc : c ∈ t.walk) :
    ∃ b, index.get? c.path = some b ∧
      (b.definedName = naming.generic ↔ c.lifecycle.isManaged = false ∧
        (keptSegments (.make naming threshold) t c).flatMap Naming.words =
          ["command", "executed"]) := by
  have hr : 1 ≤ (Resolver.make naming threshold).threshold := Nat.le_max_right threshold 1
  refine ⟨_, get?_of_build (CommandTree.nodup_paths_of_build h) hindex hc, ?_⟩
  rw [definedName_eq hr hc]
  cases hm : c.lifecycle.isManaged with
  | true =>
    rw [if_pos rfl]
    exact iff_of_false (NamingConvention.controller_ne_generic hnaming c.path) (by simp)
  | false =>
    have hnames : ∀ s ∈ keptSegments (.make naming threshold) t c, Field.isName s = true :=
      fun s hs => CommandTree.isName_of_mem_path h hc s (keptSegments_subset hs)
    rw [if_neg (by simp)]
    exact (NamingConvention.callable_eq_generic_iff hnaming hnames).trans (by simp)

/-- A long path whose ends have the words of the callable that takes every command. -/
def deepCatchAll : Value :=
  let leaf := .object [("desc", .str "Stop here")]
  let group below := .object [("desc", .str "Go on"), ("subcommands", .object below)]
  .object [("name", .str "tool"), ("commands", .object [
    ("command", group [("was", group [("not", group [("executed", leaf)])])])])]

/-- The command at the end of this path, whose ends have the words of the generic name. -/
theorem definedName_eq_generic_iff_deepCatchAll : ∃ t index c b,
    CommandTree.build 5 deepCatchAll = .ok t ∧ build t (.make .camel 3) = .ok index ∧
    c ∈ t.walk ∧ c.path = ["command", "was", "not", "executed"] ∧ index.get? c.path = some b ∧
    (b.definedName = NamingConvention.camel.generic ↔ c.lifecycle.isManaged = false ∧
      (keptSegments (.make .camel 3) t c).flatMap Naming.words = ["command", "executed"]) := by
  have hleaf : (CommandTree.build 5 deepCatchAll).toOption.any (fun t =>
      (build t (.make .camel 3)).toOption.any fun _ =>
        t.walk.any fun c => c.path = ["command", "was", "not", "executed"]) = true := by
    decide +kernel
  simp only [Option.any_eq_true, Outcome.toOption_eq_some, List.any_eq_true,
    decide_eq_true_eq] at hleaf
  obtain ⟨t, ht, index, hindex, c, hc, hpath⟩ := hleaf
  obtain ⟨b, hb, hgeneric⟩ := definedName_eq_generic_iff ht (.inr rfl) hindex hc
  exact ⟨t, index, c, b, ht, hindex, hc, hpath, hb, hgeneric⟩

/-- One command, called like the callable that takes every command. -/
def commandExecuted : Value :=
  .object [("name", .str "tool"), ("commands", .object [
    ("command-executed", .object [("desc", .str "One command")])])]

/-- The stub of one particular command is the callable that takes every command. -/
theorem definedName_eq_generic_commandExecuted : ∃ t index c b,
    CommandTree.build 16 commandExecuted = .ok t ∧ build t (.make .snake 3) = .ok index ∧
    c ∈ t.walk ∧ index.get? c.path = some b ∧
    b.definedName = NamingConvention.snake.generic := by
  have hgeneric : (CommandTree.build 16 commandExecuted).toOption.any (fun t =>
      (build t (.make .snake 3)).toOption.any fun index => t.walk.any fun c =>
        (index.get? c.path).any fun b => b.definedName = NamingConvention.snake.generic) =
      true := by
    decide +kernel
  simp only [Option.any_eq_true, Outcome.toOption_eq_some, List.any_eq_true,
    decide_eq_true_eq] at hgeneric
  obtain ⟨t, ht, index, hindex, c, hc, b, hb, hname⟩ := hgeneric
  exact ⟨t, index, c, b, ht, hindex, hc, hb, hname⟩

end Index

end CliGen.Hook
