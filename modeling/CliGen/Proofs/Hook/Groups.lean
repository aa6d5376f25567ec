import CliGen.Hook.Index
import Mathlib.Data.List.Induction
import Mathlib.Data.List.Nodup

/-!
# Bindings that define one name

The groups of a list of bindings, said without the fold that collects them: one group for each
defined name, in the order of first use, with the paths of the bindings that define it
(`ofBindings_eq`). So the first group with two paths tells the first two bindings that define one
name (`find?_shared_eq_some`), and there is none exactly where the names are pairwise different
(`find?_shared_eq_none`).
-/

namespace CliGen.Hook

/-- `a` is the first member of a list whose key comes again, and `b` is where it comes next. -/
def FirstShared {α : Type} (key : α → String) (l : List α) (a b : α) : Prop :=
  ∃ before between after, l = before ++ a :: (between ++ b :: after) ∧ key b = key a ∧
    (∀ x ∈ between, key x ≠ key a) ∧ ∀ x ∈ before, (l.map key).count (key x) = 1

namespace FirstShared

variable {α β : Type} {key : α → String} {l : List α} {a b : α}

/-- The first two that share a key do so before and after a map. -/
theorem of_map {f : β → α} {l : List β} (h : FirstShared key (l.map f) a b) :
    ∃ c d, f c = a ∧ f d = b ∧ FirstShared (key ∘ f) l c d := by
  obtain ⟨before, between, after, hl, hkey, hbetween, hbefore⟩ := h
  obtain ⟨before, rest, rfl, rfl, hrest⟩ := List.map_eq_append_iff.1 hl
  obtain ⟨c, rest, rfl, rfl, hnext⟩ := List.map_eq_cons_iff.1 hrest
  obtain ⟨between, rest, rfl, rfl, hlast⟩ := List.map_eq_append_iff.1 hnext
  obtain ⟨d, after, rfl, rfl, rfl⟩ := List.map_eq_cons_iff.1 hlast
  refine ⟨c, d, rfl, rfl, before, between, after, rfl, hkey, ?_, ?_⟩
  · exact fun x hx => hbetween _ (List.mem_map_of_mem hx)
  · intro x hx
    rw [← List.map_map]
    exact hbefore _ (List.mem_map_of_mem hx)

end FirstShared

namespace Group

/-- The paths of the bindings that define a name. -/
def pathsOf (bs : List Binding) (name : String) : List (List String) :=
  (bs.filter (·.definedName == name)).map (·.path)

/-! ## The groups, one for each name -/

private theorem add_of_notMem {name : String} {path : List String} {names : List String}
    (paths : String → List (List String)) (h : name ∉ names) :
    add name path (names.map fun n => ⟨n, paths n⟩) =
      names.map (fun n => ⟨n, paths n⟩) ++ [⟨name, [path]⟩] := by
  induction names with
  | nil => rfl
  | cons n names ih =>
    rw [List.mem_cons, not_or] at h
    rw [List.map_cons, add, if_neg (Ne.symm h.1), ih h.2, List.cons_append]

private theorem add_of_mem {name : String} {path : List String} {names : List String}
    (paths : String → List (List String)) (hnodup : names.Nodup) (h : name ∈ names) :
    add name path (names.map fun n => ⟨n, paths n⟩) =
      names.map fun n => ⟨n, if n = name then paths n ++ [path] else paths n⟩ := by
  induction names with
  | nil => cases h
  | cons n names ih =>
    rw [List.nodup_cons] at hnodup
    rw [List.map_cons, List.map_cons, add]
    by_cases hn : n = name
    · rw [if_pos hn, if_pos hn]
      refine congrArg _ (List.map_congr_left fun m hm => ?_)
      rw [if_neg fun heq => hnodup.1 (hn.trans (Eq.symm heq) ▸ hm)]
    · rw [if_neg hn, if_neg hn, ih hnodup.2 ((List.mem_cons.1 h).resolve_left (Ne.symm hn))]

/-- Without repetitions one more name is added if it is new. -/
theorem eraseDups_concat (names : List String) (name : String) :
    (names ++ [name]).eraseDups =
      if name ∈ names then names.eraseDups else names.eraseDups ++ [name] := by
  rw [List.eraseDups_append]
  by_cases h : name ∈ names <;> simp [List.removeAll, List.eraseDups_cons, h]

/-- Nothing is repeated where repetitions are erased. -/
theorem nodup_eraseDups (names : List String) : names.eraseDups.Nodup := by
  induction names using List.reverseRecOn with
  | nil => exact .nil
  | append_singleton names name ih =>
    rw [eraseDups_concat]
    split
    · exact ih
    next h => exact List.concat_eq_append ▸ ih.concat (by simpa using h)

private theorem pathsOf_concat (bs : List Binding) (b : Binding) (name : String) :
    pathsOf (bs ++ [b]) name =
      if name = b.definedName then pathsOf bs name ++ [b.path] else pathsOf bs name := by
  by_cases h : name = b.definedName
  · simp [pathsOf, h]
  · simp [pathsOf, h, Ne.symm h]

private theorem pathsOf_append_cons {before rest : List Binding} {b : Binding} {name : String}
    (hbefore : ∀ x ∈ before, x.definedName ≠ name) (hb : b.definedName = name) :
    pathsOf (before ++ b :: rest) name = b.path :: pathsOf rest name := by
  have hnone : before.filter (·.definedName == name) = [] :=
    List.filter_eq_nil_iff.2 fun x hx => by simpa using hbefore x hx
  rw [pathsOf, List.filter_append, hnone]
  simp [pathsOf, hb]

/-- The groups of some bindings, one for each name that they define. -/
theorem ofBindings_eq (bs : List Binding) :
    ofBindings bs = (bs.map (·.definedName)).eraseDups.map fun n => ⟨n, pathsOf bs n⟩ := by
  -- Grouping folds from the left, so the last binding is the one that is added.
  induction bs using List.reverseRecOn with
  | nil => rfl
  | append_singleton bs b ih =>
    rw [ofBindings, List.foldl_concat, ← ofBindings, ih, List.map_append, List.map_singleton,
      eraseDups_concat]
    simp only [pathsOf_concat]
    by_cases h : b.definedName ∈ bs.map (·.definedName)
    · rw [if_pos h, add_of_mem _ (nodup_eraseDups _) (List.mem_eraseDups.2 h)]
    · have hnew : pathsOf bs b.definedName = [] := by
        rw [pathsOf, List.map_eq_nil_iff, List.filter_eq_nil_iff]
        exact fun c hc heq => h (List.mem_map.2 ⟨c, hc, by simpa using heq⟩)
      rw [if_neg h, add_of_notMem _ (by simpa using h), List.map_append, List.map_singleton,
        if_pos rfl, hnew, List.nil_append]
      refine congrArg (· ++ _) (List.map_congr_left fun n hn => ?_)
      rw [if_neg]
      rintro rfl
      exact h (List.mem_eraseDups.1 hn)

private theorem mem_ofBindings {bs : List Binding} {g : Group} :
    g ∈ ofBindings bs ↔ g.name ∈ bs.map (·.definedName) ∧ g.paths = pathsOf bs g.name := by
  rw [ofBindings_eq, List.mem_map]
  constructor
  · rintro ⟨name, hname, rfl⟩
    exact ⟨List.mem_eraseDups.1 hname, rfl⟩
  · rintro ⟨hname, hpaths⟩
    exact ⟨g.name, List.mem_eraseDups.2 hname, by rw [← hpaths]⟩

/-- As many paths share a name as bindings define it. -/
theorem length_pathsOf (bs : List Binding) (name : String) :
    (pathsOf bs name).length = (bs.map (·.definedName)).count name := by
  rw [pathsOf, List.length_map, ← List.countP_eq_length_filter, List.count, List.countP_map]
  rfl

/-- A name is given up where two bindings define it and one of them has a long path. -/
theorem any_isGivenUp {bs : List Binding} {b : Binding} (hb : b ∈ bs) (threshold : Nat) :
    ((ofBindings bs).filter (isGivenUp threshold)).any (·.name == b.definedName) = true ↔
      2 ≤ (bs.map (·.definedName)).count b.definedName ∧
        ∃ d ∈ bs, d.definedName = b.definedName ∧ threshold < d.path.length := by
  simp only [List.any_eq_true, List.mem_filter, mem_ofBindings, isGivenUp, Bool.and_eq_true,
    decide_eq_true_eq, beq_iff_eq]
  constructor
  · rintro ⟨g, ⟨⟨-, hpaths⟩, htwice, p, hp, hlong⟩, hname⟩
    rw [hpaths, hname] at htwice hp
    obtain ⟨d, hd, rfl⟩ := List.mem_map.1 hp
    rw [List.mem_filter, beq_iff_eq] at hd
    exact ⟨length_pathsOf bs _ ▸ htwice, d, hd.1, hd.2, hlong⟩
  · rintro ⟨htwice, d, hd, hname, hlong⟩
    refine ⟨⟨b.definedName, pathsOf bs b.definedName⟩, ⟨⟨List.mem_map_of_mem hb, rfl⟩, ?_⟩, rfl⟩
    refine ⟨(length_pathsOf bs _).symm ▸ htwice, d.path, ?_, hlong⟩
    exact List.mem_map_of_mem (List.mem_filter.2 ⟨hd, by simpa using hname⟩)

/-! ## The first name that is shared -/

/-- The first name with a property is found with or without repetitions. -/
theorem find?_eraseDups (p : String → Bool) (names : List String) :
    names.eraseDups.find? p = names.find? p := by
  induction names using List.reverseRecOn with
  | nil => rfl
  | append_singleton names name ih =>
    rw [eraseDups_concat, List.find?_append, ← ih]
    split
    next h =>
      -- A name that comes again is not found again: its first use has been found.
      cases hfind : names.eraseDups.find? p with
      | some n => rfl
      | none => simp [List.find?_eq_none.1 hfind name (List.mem_eraseDups.2 h)]
    · rw [List.find?_append]

/-- The first group with two paths is that of the first binding whose name comes twice. -/
theorem find?_shared (bs : List Binding) :
    (ofBindings bs).find? (2 ≤ ·.paths.length) =
      (bs.find? fun b => 2 ≤ (bs.map (·.definedName)).count b.definedName).map
        fun b => ⟨b.definedName, pathsOf bs b.definedName⟩ := by
  rw [ofBindings_eq, List.find?_map, find?_eraseDups, List.find?_map, Option.map_map]
  simp only [Function.comp_def, length_pathsOf]

/-- No group has two paths exactly where the defined names are pairwise different. -/
theorem find?_shared_eq_none {bs : List Binding} :
    (ofBindings bs).find? (2 ≤ ·.paths.length) = none ↔ (bs.map (·.definedName)).Nodup := by
  rw [find?_shared, Option.map_eq_none_iff, List.find?_eq_none, List.nodup_iff_count_le_one]
  constructor
  · intro h name
    by_cases hmem : name ∈ bs.map (·.definedName)
    · obtain ⟨b, hb, rfl⟩ := List.mem_map.1 hmem
      have := h b hb
      simp only [decide_eq_true_eq] at this
      omega
    · rw [List.count_eq_zero_of_not_mem hmem]
      exact Nat.zero_le 1
  · intro h b _
    have := h b.definedName
    simp only [decide_eq_true_eq]
    omega

/-- The first group with two paths starts with those of the first two bindings that define one
name. -/
theorem find?_shared_eq_some {bs : List Binding} {g : Group}
    (h : (ofBindings bs).find? (2 ≤ ·.paths.length) = some g) :
    ∃ a b rest, g = ⟨a.definedName, a.path :: b.path :: rest⟩ ∧
      FirstShared Binding.definedName bs a b := by
  rw [find?_shared, Option.map_eq_some_iff] at h
  obtain ⟨a, ha, rfl⟩ := h
  obtain ⟨htwice, before, rest, hbs, hbefore⟩ := List.find?_eq_some_iff_append.1 ha
  -- No name in front of the first shared one is shared, so none of them is that name either.
  have honce : ∀ x ∈ before, (bs.map (·.definedName)).count x.definedName = 1 := by
    intro x hx
    have hle := hbefore x hx
    have hpos : 0 < (bs.map (·.definedName)).count x.definedName :=
      List.count_pos_iff.2 (List.mem_map.2 ⟨x, by simp [hbs, hx], rfl⟩)
    simp only [Bool.not_eq_eq_eq_not, Bool.not_true, decide_eq_false_iff_not] at hle
    omega
  have hpaths : pathsOf bs a.definedName = a.path :: pathsOf rest a.definedName := by
    rw [hbs]
    refine pathsOf_append_cons (fun x hx heq => ?_) rfl
    have hx := honce x hx
    rw [heq] at hx
    simp [hx] at htwice
  -- The name comes twice, so another binding behind the first defines it.
  rw [decide_eq_true_iff, ← length_pathsOf, hpaths, List.length_cons] at htwice
  obtain ⟨p, hp⟩ : ∃ p, p ∈ pathsOf rest a.definedName :=
    List.exists_mem_of_length_pos (Nat.lt_of_succ_le (Nat.le_of_succ_le_succ htwice))
  obtain ⟨x, hx, -⟩ := List.mem_map.1 hp
  obtain ⟨b, hb⟩ := Option.isSome_iff_exists.1 (List.find?_isSome.2 ⟨x, List.mem_filter.1 hx⟩)
  obtain ⟨hname, between, after, rfl, hbetween⟩ := List.find?_eq_some_iff_append.1 hb
  rw [beq_iff_eq] at hname
  have hother : ∀ x ∈ between, x.definedName ≠ a.definedName := by
    simpa using hbetween
  refine ⟨a, b, pathsOf after a.definedName, ?_, before, between, after, hbs, hname, hother, honce⟩
  rw [hpaths, pathsOf_append_cons hother hname]

end Group

end CliGen.Hook
