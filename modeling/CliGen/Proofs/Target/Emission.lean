import CliGen.Proofs.Tree.Forest
import CliGen.Target.Emission

/-!
# Generating commands is a recursion

`Target.visit` works off a list of visits and keeps the finished code of every open command. Here
the code of a forest is made by recursion: for each command the code below it, then its own, then
that of the commands beside it (`Target.emitForest`). The visits of a forest come to the same, and
to what was finished before they only add its code (`Target.visit_ofCommands`).

Where every command that is left yields code, the depth decides: all commands are generated, or one
is too deep (`Target.emitForest_of_leaves`).
-/

namespace CliGen.Target

/-- The code of a forest, and the commands that were generated for it on top of those before. -/
def emitForest (t : Target) (scene : Scene) (log : List (List String)) :
    List Command → Logged (List Fragment)
  | [] => (.ok [], log)
  | c :: cs =>
    if scene.options.maxDepth ≤ c.depth then
      (.error (.depthLimitExceeded c.path scene.options.maxDepth), log)
    else
      match emitForest t scene log c.subcommands with
      | (.error p, log) => (.error p, log)
      | (.ok children, log) =>
        match t.leave scene c children with
        | .error p => (.error p, log)
        | .ok fragment =>
          match emitForest t scene (c.path :: log) cs with
          | (.error p, log) => (.error p, log)
          | (.ok fragments, log) => (.ok (fragment :: fragments), log)
termination_by cs => sizeAll cs
decreasing_by all_goals rw [sizeAll_cons]; omega

variable {t : Target} {scene : Scene}

private theorem visit_leave_error {log : List (List String)} {c : Command}
    {children : List Fragment} {outer : List (List Fragment)} {rest : List Visit} {p : Problem}
    (h : t.leave scene c children = .error p) :
    visit t scene log (children :: outer) (.leave c :: rest) = (.error p, log) := by
  rw [visit.eq_def]
  simp only [h]

private theorem visit_leave_ok {log : List (List String)} {c : Command} {children : List Fragment}
    {siblings : List Fragment} {outer : List (List Fragment)} {rest : List Visit}
    {fragment : Fragment} (h : t.leave scene c children = .ok fragment) :
    visit t scene log (children :: siblings :: outer) (.leave c :: rest) =
      visit t scene (c.path :: log) ((siblings ++ [fragment]) :: outer) rest := by
  rw [visit.eq_def]
  simp only [h]

/-- The visits of a forest add its code to what is finished beside it, or end the run. -/
theorem visit_ofCommands (log : List (List String)) (beside : List Fragment)
    (outer : List (List Fragment)) (cs : List Command) (rest : List Visit) :
    visit t scene log (beside :: outer) (Visit.ofCommands cs ++ rest) =
      match emitForest t scene log cs with
      | (.error p, log) => (.error p, log)
      | (.ok fragments, log) => visit t scene log ((beside ++ fragments) :: outer) rest := by
  induction cs using forest_induction generalizing log beside outer rest with
  | nil => simp [Visit.ofCommands, emitForest]
  | cons c cs below sideways =>
    rw [Visit.ofCommands, List.map_cons, List.cons_append, ← Visit.ofCommands, visit, emitForest]
    split
    next => rfl
    next =>
      rw [below]
      rcases emitForest t scene log c.subcommands with ⟨p | children, log⟩
      · rfl
      · dsimp only
        rw [List.nil_append]
        cases hleave : t.leave scene c children with
        | error p => rw [visit_leave_error hleave]
        | ok fragment =>
          rw [visit_leave_ok hleave, sideways]
          rcases emitForest t scene (c.path :: log) cs with ⟨p | fragments, log⟩
          · rfl
          · simp

/-- The commands of a tree are generated by recursion. -/
theorem emitTree_eq (t : Target) (scene : Scene) :
    t.emitTree scene = emitForest t scene [] scene.tree.commands := by
  have hvisit : t.visit scene [] [[]] (Visit.ofCommands scene.tree.commands ++ []) = _ :=
    visit_ofCommands [] [] [] scene.tree.commands []
  rw [List.append_nil] at hvisit
  rw [emitTree, hvisit]
  rcases emitForest t scene [] scene.tree.commands with ⟨p | fragments, log⟩
  · rfl
  · simp [visit]

/-- Where every command that is left yields code, a forest is generated as a whole, or one of its
commands is too deep. -/
theorem emitForest_of_leaves {cs : List Command}
    (hleave : ∀ c ∈ walkPending cs, ∀ children, ∃ f, t.leave scene c children = .ok f)
    (log : List (List String)) :
    (∃ fragments log', emitForest t scene log cs = (.ok fragments, log') ∧
      log'.length = log.length + sizeAll cs ∧
      ∀ c ∈ walkPending cs, c.depth < scene.options.maxDepth) ∨
    ∃ c ∈ walkPending cs, scene.options.maxDepth ≤ c.depth ∧ ∃ log',
      emitForest t scene log cs =
        (.error (.depthLimitExceeded c.path scene.options.maxDepth), log') := by
  induction cs using forest_induction generalizing log with
  | nil => exact .inl ⟨[], log, by rw [emitForest], by simp⟩
  | cons c cs below beside =>
    rw [forall_mem_walkPending_cons] at hleave
    obtain ⟨hc, hbelow, hbeside⟩ := hleave
    rw [emitForest]
    by_cases hdeep : scene.options.maxDepth ≤ c.depth
    · rw [if_pos hdeep]
      exact .inr ⟨c, by simp, hdeep, log, rfl⟩
    rw [if_neg hdeep]
    -- What lies below is generated first, so a problem there is the one that is met.
    rcases below hbelow log with ⟨children, inner, hchildren, hinner, hfits⟩ | hfails
    · obtain ⟨fragment, hfragment⟩ := hc children
      rw [hchildren]
      dsimp only
      rw [hfragment]
      dsimp only
      rcases beside hbeside (c.path :: inner) with
        ⟨fragments, log', hall, hlength, hothers⟩ | hfails
      · refine .inl ⟨fragment :: fragments, log', by rw [hall], ?_, ?_⟩
        · rw [hlength, List.length_cons, hinner, sizeAll_cons]
          omega
        · rw [forall_mem_walkPending_cons]
          exact ⟨by omega, hfits, hothers⟩
      · obtain ⟨d, hd, hdeep, log', herror⟩ := hfails
        exact .inr ⟨d, by simp [hd], hdeep, log', by rw [herror]⟩
    · obtain ⟨d, hd, hdeep, log', herror⟩ := hfails
      exact .inr ⟨d, by simp [hd], hdeep, log', by rw [herror]⟩

end CliGen.Target
