import CliGen.Proofs.Artifact.Assembly
import CliGen.Proofs.Target.Emission

/-!
# The code of a forest

A fragment keeps code in named sections, and what a command absorbs stands behind its own code. So
the code of a section in a forest is put together from the commands' own code in the order of the
walk, although every command is generated after those below it (`Target.join_emitForest`).

What it takes is that a target adds nothing to the code of the commands below but puts it behind the
own code of a command (`Target.Appends`), so own code can be told apart from the rest.
-/

namespace CliGen

namespace Fragment

/-- No section is listed twice. -/
def Distinct (f : Fragment) : Prop := (f.sections.map (·.1)).Nodup

/-- Pushing code appends it to its section and leaves the others. -/
theorem lookup_pushTo (name code other : String) (sections : List (String × String)) :
    (pushTo name code sections).lookup other = if other = name then
      some ((sections.lookup name).getD "" ++ code) else sections.lookup other := by
  induction sections with
  | nil =>
    rw [pushTo, lookup_cons_ite, List.lookup_nil, List.lookup_nil, Option.getD_none,
      String.empty_append]
  | cons s rest ih =>
    obtain ⟨n, c⟩ := s
    rw [pushTo]
    by_cases hn : n = name
    · subst hn
      rw [if_pos rfl, lookup_cons_ite, lookup_cons_ite, lookup_cons_ite, if_pos rfl,
        Option.getD_some]
      by_cases h : other = n
      · rw [if_pos h, if_pos h]
      · rw [if_neg h, if_neg h, if_neg h]
    · rw [if_neg hn, lookup_cons_ite, lookup_cons_ite, lookup_cons_ite, ih, if_neg (Ne.symm hn)]
      by_cases h : other = n
      · rw [if_pos h, if_pos h, if_neg (h ▸ hn)]
      · rw [if_neg h, if_neg h]

/-- Code that is pushed stands behind the code of its section. -/
theorem code_push (f : Fragment) (name code other : String) :
    (f.push name code).code other =
      if other = name then f.code name ++ code else f.code other := by
  rw [push]
  split
  next hempty =>
    rw [String.isEmpty_iff.1 hempty, String.append_empty]
    split
    next h => rw [h]
    next => rfl
  next =>
    simp only [Fragment.code, lookup_pushTo]
    split
    next => rfl
    next => rfl

/-- A section comes up where code is first pushed to it. -/
theorem keys_pushTo (name code : String) (sections : List (String × String)) :
    (pushTo name code sections).map (·.1) = if name ∈ sections.map (·.1) then
      sections.map (·.1) else sections.map (·.1) ++ [name] := by
  induction sections with
  | nil => rfl
  | cons s rest ih =>
    obtain ⟨n, c⟩ := s
    rw [pushTo]
    by_cases hn : n = name
    · simp [hn]
    · have hn' : ¬ name = n := Ne.symm hn
      rw [if_neg hn, List.map_cons, ih]
      by_cases hmem : name ∈ rest.map (·.1) <;> simp [hn', hmem]

/-- A fragment without code has no sections. -/
theorem Distinct.empty (path : List String) : (Fragment.empty path).Distinct := List.nodup_nil

/-- Pushing code makes no section twice. -/
theorem Distinct.push {f : Fragment} (h : f.Distinct) (name code : String) :
    (f.push name code).Distinct := by
  rw [Fragment.push]
  split
  next => exact h
  next =>
    show ((pushTo name code f.sections).map (·.1)).Nodup
    rw [keys_pushTo]
    split
    next => exact h
    next hnew =>
      refine List.nodup_append.2 ⟨h, List.pairwise_singleton _ name, ?_⟩
      rintro n hn m hm rfl
      exact hnew (List.mem_singleton.1 hm ▸ hn)

/-- Sections that are pushed one after the other stand behind the code of their names. -/
theorem code_pushAll {sections : List (String × String)} (h : (sections.map (·.1)).Nodup)
    (f : Fragment) (name : String) :
    (sections.foldl (fun f s => f.push s.1 s.2) f).code name =
      f.code name ++ (sections.lookup name).getD "" := by
  induction sections generalizing f with
  | nil => simp
  | cons s rest ih =>
    obtain ⟨n, c⟩ := s
    rw [List.map_cons, List.nodup_cons] at h
    rw [List.foldl_cons, ih h.2, code_push, lookup_cons_ite]
    by_cases hn : name = n
    · subst hn
      have hlast : rest.lookup name = none := by
        rw [List.lookup_eq_none_iff]
        intro p hp
        have hne : name ≠ p.1 := by
          intro heq
          exact h.1 (List.mem_map.2 ⟨p, hp, heq.symm⟩)
        simpa using hne
      rw [if_pos rfl, if_pos rfl, hlast, Option.getD_none, String.append_empty, Option.getD_some]
    · rw [if_neg hn, if_neg hn]

/-- Neither does pushing more of it. -/
theorem Distinct.pushAll (sections : List (String × String)) {f : Fragment} (h : f.Distinct) :
    (sections.foldl (fun f s => f.push s.1 s.2) f).Distinct := by
  induction sections generalizing f with
  | nil => exact h
  | cons s rest ih => exact ih (h.push s.1 s.2)

/-- Without fragments there is no code. -/
@[simp]
theorem join_nil (name : String) : join [] name = "" := rfl

/-- The code of a section stands in the order of the fragments. -/
@[simp]
theorem join_cons (f : Fragment) (fs : List Fragment) (name : String) :
    join (f :: fs) name = f.code name ++ join fs name := String.join_cons

/-- What is absorbed stands behind the code that was there, in order. -/
theorem code_absorb (f : Fragment) {children : List Fragment} (h : ∀ c ∈ children, c.Distinct)
    (name : String) : (f.absorb children).code name = f.code name ++ join children name := by
  rw [absorb]
  induction children generalizing f with
  | nil => simp
  | cons c cs ih =>
    rw [List.forall_mem_cons] at h
    rw [List.foldl_cons, ih _ h.2, code_pushAll h.1, join_cons, String.append_assoc]
    rfl

/-- Taking up the code of other fragments makes no section twice. -/
theorem Distinct.absorb {f : Fragment} (h : f.Distinct) (children : List Fragment) :
    (f.absorb children).Distinct := by
  rw [Fragment.absorb]
  induction children generalizing f with
  | nil => exact h
  | cons c cs ih => exact ih (h.pushAll c.sections)

end Fragment

namespace Target

/-- What a target makes of a command is the command's own code, and behind it that of the commands
below. -/
structure Appends (t : Target) : Prop where
  absorb : ∀ scene c b children,
    t.emit scene c b children = (t.emit scene c b []).map (·.absorb children)
  distinct : ∀ {scene c b f}, t.emit scene c b [] = .ok f → f.Distinct

variable {t : Target} {scene : Scene}

/-- Own code, if there is nothing below. -/
def ownCode (t : Target) (scene : Scene) (c : Command) : Outcome Fragment := t.leave scene c []

/-- Leaving a command makes its own code, with the code below behind it. -/
theorem Appends.leave_ok (ht : t.Appends) {c : Command} {children : List Fragment}
    {fragment : Fragment} (h : t.leave scene c children = .ok fragment) :
    ∃ own, t.ownCode scene c = .ok own ∧ own.Distinct ∧ fragment = own.absorb children := by
  rw [leave] at h
  rw [ownCode, leave]
  cases hb : scene.bindings.get? c.path with
  | none => simp [hb] at h
  | some b =>
    rw [hb] at h
    dsimp only at h ⊢
    rw [ht.absorb] at h
    cases hown : t.emit scene c b [] with
    | error p =>
      rw [hown] at h
      cases h
    | ok own =>
      rw [hown] at h
      cases h
      exact ⟨own, rfl, ht.distinct hown, rfl⟩

/-- What it takes to generate a forest: its first command, all that lies below it, and those beside
it. -/
theorem emitForest_cons_ok {log log' : List (List String)} {c : Command} {cs : List Command}
    {fragments : List Fragment} (h : emitForest t scene log (c :: cs) = (.ok fragments, log')) :
    ∃ children inner fragment rest, emitForest t scene log c.subcommands = (.ok children, inner) ∧
      t.leave scene c children = .ok fragment ∧
      emitForest t scene (c.path :: inner) cs = (.ok rest, log') ∧
      fragments = fragment :: rest := by
  rw [emitForest] at h
  split at h
  next => cases h
  next =>
    rcases hbelow : emitForest t scene log c.subcommands with ⟨p | children, inner⟩
    · rw [hbelow] at h
      cases h
    · rw [hbelow] at h
      dsimp only at h
      cases hleave : t.leave scene c children with
      | error p =>
        rw [hleave] at h
        cases h
      | ok fragment =>
        rw [hleave] at h
        dsimp only at h
        rcases hbeside : emitForest t scene (c.path :: inner) cs with ⟨p | rest, log''⟩
        · rw [hbeside] at h
          cases h
        · rw [hbeside] at h
          cases h
          exact ⟨children, inner, fragment, rest, rfl, hleave, hbeside, rfl⟩

/-- **The code of a forest in the order of the walk.** Every section of a forest is put together
from the commands' own code, each command before those below it and siblings in their order. -/
theorem Appends.join_emitForest (ht : t.Appends) {log log' : List (List String)}
    {cs : List Command} {fragments : List Fragment}
    (h : emitForest t scene log cs = (.ok fragments, log')) :
    (∀ f ∈ fragments, f.Distinct) ∧ ∃ own,
      List.Forall₂ (fun c f => t.ownCode scene c = .ok f) (walkPending cs) own ∧
        ∀ name, Fragment.join fragments name = String.join (own.map (·.code name)) := by
  induction cs using forest_induction generalizing log log' fragments with
  | nil =>
    rw [emitForest] at h
    cases h
    exact ⟨by simp, [], by simp, fun _ => rfl⟩
  | cons c cs below beside =>
    obtain ⟨children, inner, fragment, rest, hbelow, hleave, hbeside, rfl⟩ := emitForest_cons_ok h
    obtain ⟨own, hown, hdistinct, rfl⟩ := ht.leave_ok hleave
    obtain ⟨hchildren, ownBelow, hallBelow, hjoinBelow⟩ := below hbelow
    obtain ⟨hrest, ownBeside, hallBeside, hjoinBeside⟩ := beside hbeside
    refine ⟨List.forall_mem_cons.2 ⟨hdistinct.absorb children, hrest⟩,
      own :: (ownBelow ++ ownBeside), ?_, fun name => ?_⟩
    · rw [walkPending_cons]
      exact .cons hown (List.rel_append hallBelow hallBeside)
    · calc Fragment.join (own.absorb children :: rest) name
          = own.code name ++ Fragment.join children name ++ Fragment.join rest name := by
            rw [Fragment.join_cons, Fragment.code_absorb own hchildren]
        _ = own.code name ++ (String.join (ownBelow.map (·.code name)) ++
              String.join (ownBeside.map (·.code name))) := by
            rw [hjoinBelow, hjoinBeside, String.append_assoc]
        _ = String.join ((own :: (ownBelow ++ ownBeside)).map (·.code name)) := by
            rw [List.map_cons, String.join_cons, List.map_append, String.join_append]

end Target

end CliGen
