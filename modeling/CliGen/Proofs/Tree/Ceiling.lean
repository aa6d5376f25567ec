import CliGen.Proofs.Tree.Placement

/-!
# The ceiling decides acceptance only

A document is read under a ceiling on the levels of commands. Of a tree that a higher ceiling lets
pass, a lower one keeps either everything or nothing: it answers the same tree, or it refuses the
first command of the walk that stands at its depth (`CommandTree.build_ceiling`).

## Shape of the proof

* `Build.mapM_readNested_cut`: a forest that passed is read again under another ceiling. All checks
  of single commands pass again, so what comes out depends on depths alone (`Build.cut`).
* `CommandTree.build_eq_cut`: so it is with the whole document, and the walk tells the outcome.
-/

namespace CliGen

open Outcome

namespace Build

variable {d e : Nat} {path : List String} {entries : List NamedBody} {cs : List Command}

/-- Below two ceilings that both leave room for it, a command is read alike. -/
theorem Waiting.read_congr {w : Waiting} (hd : w.parentPath.length < d)
    (he : w.parentPath.length < e) : w.read d = w.read e := by
  rw [Waiting.read, Waiting.read, if_neg (by omega), if_neg (by omega)]

/-- Behind a command that is read come those below it. -/
theorem readNested_of_read {limit : Nat} {entry : NamedBody} {command : Command}
    {below : List NamedBody} (h : (waitingAt none path entry).read limit = .ok (command, below)) :
    readNested limit path entry = (do
      let subcommands ← below.mapM (readNested limit (path ++ [entry.1]))
      return { command with subcommands }) := by
  rw [readNested_eq limit none, h, ok_bind]

/-- A forest under a ceiling: it passes, or its first command at the depth of the ceiling is
refused. -/
def cut (limit : Nat) (cs : List Command) : Outcome (List Command) :=
  match (walkPending cs).find? (·.depth == limit) with
  | none => .ok cs
  | some c => .error (.depthLimitExceeded c.path limit)

/-- A command at the limit is refused. -/
theorem cut_of_depth_eq {limit : Nat} {c : Command} (h : c.depth = limit) (cs : List Command) :
    cut limit (c :: cs) = .error (.depthLimitExceeded c.path limit) := by
  have hfirst : (walkPending (c :: cs)).find? (·.depth == limit) = some c := by
    rw [walkPending_cons, List.find?_cons_of_pos (by simp [h])]
  rw [cut, hfirst]

/-- Behind a command that passes, what is below it is cut before what is beside it. -/
theorem cut_cons {limit : Nat} {c : Command} (h : c.depth ≠ limit) (cs : List Command) :
    cut limit (c :: cs) = (do
      let _ ← cut limit c.subcommands
      let _ ← cut limit cs
      return c :: cs) := by
  have hpassed : ¬ (c.depth == limit) = true := by simpa using h
  rw [cut, find?_walkPending_cons hpassed, cut, cut]
  cases (walkPending c.subcommands).find? (·.depth == limit) with
  | some deep => rfl
  | none => cases (walkPending cs).find? (·.depth == limit) <;> rfl

/-- An answer of a cut is the forest itself. -/
theorem eq_of_cut {limit : Nat} {cs ds : List Command} (h : cut limit cs = .ok ds) : ds = cs := by
  unfold cut at h
  split at h
  · exact (Except.ok.inj h).symm
  · cases h

/-- What passed under one ceiling is cut by another. -/
theorem mapM_readNested_cut (hroom : path.length ≤ d)
    (h : entries.mapM (readNested e path) = .ok cs) :
    entries.mapM (readNested d path) = cut d cs := by
  induction cs using forest_induction generalizing path entries with
  | nil =>
    have hnone : entries = [] := by simpa using mapM_eq_ok.1 h
    rw [hnone]
    simp [cut]
  | cons c cs below beside =>
    obtain ⟨entry, rest, hc, hcs, rfl⟩ := List.forall₂_cons_right_iff.1 (mapM_eq_ok.1 h)
    obtain ⟨hfits, hname, hparent, -⟩ := readNested_ok hc
    have hdepth : c.depth = path.length := by rw [Command.depth, hparent]
    by_cases hdeep : path.length = d
    · -- No room is left on this level, so already the first entry is refused.
      have hrefused : readNested d path entry = .error (.depthLimitExceeded c.path d) := by
        rw [readNested.eq_def, if_pos (by omega), Command.path, hparent, hname]
      rw [List.mapM_cons, hrefused, cut_of_depth_eq (hdepth.trans hdeep)]
      rfl
    · have hlt : path.length < d := by omega
      obtain ⟨command, nested, hread, hsubs, hown⟩ := read_of_readNested hc
      have hread' : (waitingAt none path entry).read d = .ok (command, nested) := by
        rw [← hread]
        exact Waiting.read_congr hlt hfits
      have hroom' : (path ++ [entry.1]).length ≤ d := by
        rw [List.length_append, List.length_singleton]
        omega
      rw [List.mapM_cons, readNested_of_read hread', below hroom' hsubs,
        beside hroom (mapM_eq_ok.2 hcs), cut_cons (hdepth.trans_ne hdeep), bind_assoc]
      -- Whatever is below and beside passes unchanged or is refused.
      cases hbelow : cut d c.subcommands with
      | error p => rfl
      | ok subcommands =>
        rw [eq_of_cut hbelow]
        cases hbeside : cut d cs with
        | error p => rfl
        | ok others =>
          rw [eq_of_cut hbeside]
          simp only [ok_bind, pure_eq_ok, ← hown]

end Build

namespace CommandTree

variable {d e : Nat} {document : Value} {t : CommandTree}

/-- Only the reading of the commands depends on the ceiling. -/
theorem entries_of_build (h : build e document = .ok t) : ∃ entries : List NamedBody,
    entries.mapM (Build.readNested (max e 1) []) = .ok t.commands ∧
      ∀ ceiling, build ceiling document = (do
        let commands ← entries.mapM (Build.readNested (max ceiling 1) [])
        return { t with commands }) := by
  obtain ⟨fields, head, entries, hfields, hhead, hentries, hcommands, ht⟩ := parts_of_build h
  refine ⟨entries, hcommands, fun ceiling => ?_⟩
  rw [build_eq_buildNested, buildNested, hfields, ht]
  simp only [hhead, hentries, ok_bind]

/-- What was built under one ceiling is cut by another. -/
theorem build_eq_cut (h : build e document = .ok t) (hd : 1 ≤ d) :
    build d document = (do
      let commands ← Build.cut d t.commands
      return { t with commands }) := by
  obtain ⟨entries, hread, hbuild⟩ := entries_of_build h
  have hroom : ([] : List String).length ≤ d := Nat.zero_le d
  rw [hbuild, Nat.max_eq_left hd, Build.mapM_readNested_cut hroom hread]

/-- A tree with no command at the depth of a ceiling is built under that ceiling. -/
theorem build_of_find?_none (h : build e document = .ok t) (hd : 1 ≤ d)
    (hnone : t.walk.find? (·.depth == d) = none) : build d document = .ok t := by
  have hcut : Build.cut d t.commands = .ok t.commands := by rw [Build.cut, ← walk, hnone]
  rw [build_eq_cut h hd, hcut]
  rfl

/-- A tree is built under every ceiling that it does not exceed. -/
theorem build_of_maxDepth_le (h : build e document = .ok t) (hd : 1 ≤ d) (hfits : t.maxDepth ≤ d) :
    build d document = .ok t := by
  apply build_of_find?_none h hd
  rw [List.find?_eq_none]
  intro c hc hdepth
  have hlt : c.depth < d := (maxDepth_le_iff t d).1 hfits c hc
  have heq : c.depth = d := eq_of_beq hdepth
  omega

/-- **The ceiling decides acceptance only.** What is built under a ceiling is built under every
higher one. It is built under a lower one too as long as it is no deeper than that; and if it is
deeper, its first command at that depth is refused. -/
theorem build_ceiling {d e : Nat} (hd : 1 ≤ d) (hde : d ≤ e) (document : Value) :
    (∀ t, build d document = .ok t → build e document = .ok t) ∧
      ∀ t, build e document = .ok t →
        (t.maxDepth ≤ d → build d document = .ok t) ∧
        (d < t.maxDepth → ∃ c, t.walk.find? (·.depth == d) = some c ∧ c.path.length = d + 1 ∧
          build d document = .error (.depthLimitExceeded c.path d)) := by
  refine ⟨fun t ht => ?_, fun t ht => ⟨fun hfits => ?_, fun hdeep => ?_⟩⟩
  · have hfits : t.maxDepth ≤ d := by
      rw [maxDepth_le_iff]
      intro c hc
      have hlt : c.depth < max d 1 := depth_lt_of_build ht hc
      omega
    exact build_of_maxDepth_le ht (Nat.le_trans hd hde) (Nat.le_trans hfits hde)
  · exact build_of_maxDepth_le ht hd hfits
  · cases hfirst : t.walk.find? (·.depth == d) with
    | none =>
      -- What passes under a ceiling is no deeper than that.
      have hpass : build d document = .ok t := build_of_find?_none ht hd hfirst
      have hfits : t.maxDepth ≤ max d 1 :=
        (maxDepth_le_iff t _).2 fun c hc => depth_lt_of_build hpass hc
      omega
    | some c =>
      have hdepth : c.depth = d := by simpa using List.find?_some hfirst
      have hcut : Build.cut d t.commands = .error (.depthLimitExceeded c.path d) := by
        rw [Build.cut, ← walk, hfirst]
      refine ⟨c, rfl, ?_, ?_⟩
      · rw [Command.path, List.length_append, List.length_singleton, ← hdepth]
        rfl
      · rw [build_eq_cut ht hd, hcut]
        rfl

/-- Commands on three levels, the third of them below the second command at the top. -/
def tiered : Value := .object [("name", .str "tool"), ("commands", .object [
  ("log", .object [("desc", .str "Logs"), ("subcommands", .object [
    ("show", .object [("desc", .str "Show")])])]),
  ("db", .object [("desc", .str "Databases"), ("subcommands", .object [
    ("user", .object [("desc", .str "Users"), ("subcommands", .list [
      .object [("name", .str "add"), ("desc", .str "Add")],
      .object [("name", .str "drop"), ("desc", .str "Drop")]])])])])])]

/-- A tree of three levels, and the first command beyond two of them. -/
theorem build_ceiling_tiered : 1 ≤ 2 ∧ 2 ≤ 4 ∧ ∃ t, build 4 tiered = .ok t ∧ t.maxDepth = 3 ∧
    build 2 tiered = .error (.depthLimitExceeded ["db", "user", "add"] 2) := by
  have hbuilt : (build 4 tiered).toOption.any (fun t => t.maxDepth = 3 ∧
      (t.walk.find? (·.depth == 2)).any (·.path = ["db", "user", "add"])) = true := by
    decide +kernel
  simp only [Option.any_eq_true, toOption_eq_some, decide_eq_true_eq] at hbuilt
  obtain ⟨t, ht, hdepth, first, hfirst, hpath⟩ := hbuilt
  have hle : 1 ≤ 2 ∧ 2 ≤ 4 := by decide
  obtain ⟨c, hc, -, hrefused⟩ := ((build_ceiling hle.1 hle.2 tiered).2 t ht).2 (by omega)
  obtain rfl : first = c := Option.some.inj (hfirst.symm.trans hc)
  exact ⟨hle.1, hle.2, t, ht, hdepth, hpath ▸ hrefused⟩

end CommandTree

end CliGen
