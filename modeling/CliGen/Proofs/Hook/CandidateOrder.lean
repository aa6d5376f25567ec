import CliGen.Proofs.Hook.Settled
import CliGen.Proofs.Naming.Words

/-!
# The order of candidates

The candidates of a path begin with the name of the whole path, and none comes twice. The callable
that takes every command is meant to come last, and it does unless another name is the same: a name
keeps the place where it comes first. That matters for one kind of path only, whose ends have the
words of that callable while its last two segments have others (`Resolver.candidates_in_order`).

## Shape of the proof

* `Resolver.candidates_of_short`: a path of one or two segments has one name besides the callable
  that takes every command, since its last two segments are the whole path.
* `Resolver.candidates_of_long`: a longer path has three, those of the path, of its ends and of its
  last two segments.
* `NamingConvention.callable_append_ne`: on a longer path the first of the three is none of the
  others, so only the ends can come before their time.
-/

namespace CliGen

open Naming

namespace NamingConvention

/-- Every segment of a path has a word. -/
theorem length_le_flatMap_words {segments : List String}
    (hsegments : ∀ s ∈ segments, Field.isName s = true) :
    segments.length ≤ (segments.flatMap words).length := by
  induction segments with
  | nil => exact Nat.le_refl 0
  | cons s segments ih =>
    rw [List.forall_mem_cons] at hsegments
    have hword := List.length_pos_iff.2 (words_ne_nil hsegments.1)
    have hrest := ih hsegments.2
    rw [List.flatMap_cons, List.length_append, List.length_cons]
    omega

/-- More segments in front give another callable. -/
theorem callable_append_ne {n : NamingConvention} (hn : n = .snake ∨ n = .camel)
    {front back : List String} (hfront : front ≠ [])
    (hsegments : ∀ s ∈ front ++ back, Field.isName s = true) :
    n.callable (front ++ back) ≠ n.callable back := by
  intro heq
  have hwords : ∀ w ∈ (front ++ back).flatMap words, IsWord w := by
    intro w hw
    obtain ⟨s, hs, hw⟩ := List.mem_flatMap.1 hw
    exact isWord_of_mem_words (hsegments s hs) hw
  rw [List.flatMap_append] at hwords
  have hfew : front.flatMap words = [] := by
    rcases hn with rfl | rfl
    · have hsnake : "_".intercalate (front.flatMap words ++ back.flatMap words) =
          "_".intercalate (back.flatMap words) := by
        rw [← List.flatMap_append]
        exact String.append_right_inj _ |>.1 heq
      have hsame := snake_inj hwords (fun w hw => hwords w (List.mem_append_right _ hw)) hsnake
      exact List.append_left_eq_self.1 hsame
    · have hpascal := congrArg String.toList (String.append_right_inj _ |>.1 heq)
      rw [pascal, pascal, toList_pascal, toList_pascal, List.flatMap_append, List.flatMap_append,
        List.append_left_eq_self, List.flatMap_eq_nil_iff] at hpascal
      -- The capital form of a word is not empty, so there is no word.
      refine List.eq_nil_iff_forall_not_mem.2 fun w hw => ?_
      obtain ⟨c, cs, -, hcapital⟩ := (hwords w (List.mem_append_left _ hw)).capitalize_toList
      rw [hpascal w hw] at hcapital
      cases hcapital
  have hlength := length_le_flatMap_words fun s hs => hsegments s (List.mem_append_left back hs)
  rw [hfew] at hlength
  exact hfront (List.length_eq_zero_iff.1 (Nat.le_zero.1 hlength))

/-- Two segments have the callable that takes every command where each of them is one of its
words. -/
theorem callable_pair_eq_generic_iff {n : NamingConvention} (hn : n = .snake ∨ n = .camel)
    {a b : String} (ha : Field.isName a = true) (hb : Field.isName b = true) :
    n.callable [a, b] = n.generic ↔ words a = ["command"] ∧ words b = ["executed"] := by
  rw [callable_eq_generic_iff hn (by simp [ha, hb])]
  obtain ⟨v, vs, hv⟩ := List.exists_cons_of_ne_nil (words_ne_nil ha)
  obtain ⟨w, ws, hw⟩ := List.exists_cons_of_ne_nil (words_ne_nil hb)
  simp only [List.flatMap_cons, List.flatMap_nil, List.append_nil, hv, hw, List.cons_append,
    List.cons.injEq]
  cases vs with
  | nil => simp
  | cons u us => simp

end NamingConvention

namespace Hook

/-! ## What the steps of the search keep -/

namespace Strategy

/-- The ends of a path have the words of the callable that takes every command, and the last two
segments have others. -/
def Overshoots (path : List String) : Prop :=
  ∃ first middle before last, path = first :: (middle ++ [before, last]) ∧
    words first = ["command"] ∧ words last = ["executed"] ∧ words before ≠ ["command"]

/-- A long path has a first step and two last ones. -/
theorem exists_ends {path : List String} (h : 2 < path.length) :
    ∃ first middle before last, path = first :: (middle ++ [before, last]) := by
  have hfront : path ≠ [] := by
    rintro rfl
    simp at h
  obtain ⟨front, last, rfl⟩ := (List.eq_nil_or_concat path).resolve_left hfront
  have hrest : front ≠ [] := by
    rintro rfl
    simp at h
  obtain ⟨front, before, rfl⟩ := (List.eq_nil_or_concat front).resolve_left hrest
  cases front with
  | nil => simp at h
  | cons first middle => exact ⟨first, middle, before, last, by simp⟩

/-- A path that overshoots has three segments at least. -/
theorem Overshoots.length {path : List String} (h : Overshoots path) : 2 < path.length := by
  obtain ⟨first, middle, before, last, rfl, -⟩ := h
  simp

/-- The ends of a long path. -/
theorem ends_of_long (first : String) (middle : List String) (before last : String) :
    ends (first :: (middle ++ [before, last])) = [first, last] := by
  rw [ends, List.getLast?_cons]
  simp

/-- The last two steps of a long path. -/
theorem drop_of_long (first : String) (middle : List String) (before last : String) :
    (first :: (middle ++ [before, last])).drop ((first :: (middle ++ [before, last])).length - 2) =
      [before, last] := by
  have hfront : (first :: (middle ++ [before, last])).length - 2 = (first :: middle).length := by
    simp
  rw [hfront, ← List.cons_append, List.drop_left]

end Strategy

namespace Resolver

variable {r : Resolver} {path : List String}

/-- A path of one or two segments gives one name besides the fallback. -/
theorem candidates_of_short (hpath : path ≠ []) (h : path.length ≤ 2) :
    r.candidates path = [r.naming.callable path, r.naming.generic].eraseDups := by
  have hexact : r.candidate? path .exact = some (r.naming.callable path) := by
    simp [candidate?, Strategy.segments?, hpath]
  have habbreviated : r.candidate? path .abbreviated = none := by
    cases path with
    | nil => rfl
    | cons a path =>
      cases path with
      | nil => rfl
      | cons b path =>
        cases path with
        | nil => rfl
        | cons c path => simp at h
  have hnamespaced : r.candidate? path .namespaced = some (r.naming.callable path) := by
    have hall : path.length - 2 = 0 := Nat.sub_eq_zero_of_le h
    simp [candidate?, Strategy.segments?, hpath, hall]
  rw [candidates, Strategy.chain, List.filterMap_cons_some hexact,
    List.filterMap_cons_none habbreviated, List.filterMap_cons_some hnamespaced]
  show [r.naming.callable path, r.naming.callable path, r.naming.generic].eraseDups = _
  rw [List.eraseDups_cons, List.eraseDups_cons]
  simp

/-- A longer path gives three names besides the fallback. -/
theorem candidates_of_long (first : String) (middle : List String) (before last : String) :
    r.candidates (first :: (middle ++ [before, last])) =
      [r.naming.callable (first :: (middle ++ [before, last])), r.naming.callable [first, last],
        r.naming.callable [before, last], r.naming.generic].eraseDups := by
  have hexact : r.candidate? (first :: (middle ++ [before, last])) .exact =
      some (r.naming.callable (first :: (middle ++ [before, last]))) := rfl
  have habbreviated : r.candidate? (first :: (middle ++ [before, last])) .abbreviated =
      some (r.naming.callable [first, last]) := by
    rw [candidate?, Strategy.segments?_abbreviated (by simp), Strategy.ends_of_long,
      Option.map_some]
    rintro ⟨⟩
  have hnamespaced : r.candidate? (first :: (middle ++ [before, last])) .namespaced =
      some (r.naming.callable [before, last]) := by
    rw [candidate?, Strategy.segments?, Strategy.drop_of_long]
    · rfl
    · rintro ⟨⟩
  rw [candidates, Strategy.chain, List.filterMap_cons_some hexact,
    List.filterMap_cons_some habbreviated, List.filterMap_cons_some hnamespaced]
  rfl

/-- The name of the whole path is tried first. -/
theorem head?_candidates (hpath : path ≠ []) :
    (r.candidates path).head? = some (r.naming.callable path) := by
  rcases Nat.lt_or_ge 2 path.length with hlong | hshort
  · obtain ⟨first, middle, before, last, rfl⟩ := Strategy.exists_ends hlong
    rw [candidates_of_long, List.eraseDups_cons]
    rfl
  · rw [candidates_of_short hpath hshort, List.eraseDups_cons]
    rfl

/-- The generic name is always a candidate. -/
theorem generic_mem_candidates (r : Resolver) (path : List String) :
    r.naming.generic ∈ r.candidates path :=
  List.mem_eraseDups.2 (List.mem_filterMap.2 ⟨.generic, by decide, rfl⟩)

/-- A name that is added to others comes last, unless it is one of them. -/
theorem getLast?_eraseDups_concat {names : List String} {name : String} (h : name ∉ names) :
    (names ++ [name]).eraseDups.getLast? = some name := by
  rw [Group.eraseDups_concat, if_neg h, List.getLast?_concat]

/-- A path of one or two segments has the fallback for its last candidate. -/
theorem getLast?_candidates_of_short (hpath : path ≠ []) (h : path.length ≤ 2) :
    (r.candidates path).getLast? = some r.naming.generic := by
  rw [candidates_of_short hpath h]
  by_cases heq : r.naming.callable path = r.naming.generic
  · rw [heq, List.eraseDups_cons]
    simp
  · have hnew : r.naming.generic ∉ [r.naming.callable path] := by simpa using Ne.symm heq
    exact getLast?_eraseDups_concat hnew

section

variable (hn : r.naming = .snake ∨ r.naming = .camel)
  (hsegments : ∀ s ∈ path, Field.isName s = true)

include hn hsegments

/-- The name of a long path is none of the others. -/
theorem callable_ne_of_long (hlong : 2 < path.length) :
    r.naming.callable path ≠ r.naming.generic ∧
      r.naming.callable path ≠ r.naming.callable (path.drop (path.length - 2)) := by
  refine ⟨fun heq => ?_, ?_⟩
  · rw [NamingConvention.callable_eq_generic_iff hn hsegments] at heq
    have hlength := NamingConvention.length_le_flatMap_words hsegments
    rw [heq, List.length_cons, List.length_cons, List.length_nil] at hlength
    omega
  · have hfront : path.take (path.length - 2) ≠ [] := by
      rw [Ne, List.take_eq_nil_iff]
      rintro (hnone | rfl)
      · omega
      · simp at hlong
    have hsplit := List.take_append_drop (path.length - 2) path
    have hne := NamingConvention.callable_append_ne hn hfront (hsplit.symm ▸ hsegments)
    rwa [hsplit] at hne

/-- A path that overshoots has a candidate behind the fallback. -/
theorem candidates_of_overshoots (h : Strategy.Overshoots path) :
    r.candidates path = [r.naming.callable path, r.naming.generic,
        r.naming.callable (path.drop (path.length - 2))] ∧
      r.naming.callable (path.drop (path.length - 2)) ≠ r.naming.generic := by
  obtain ⟨hgeneric, hdrop⟩ := callable_ne_of_long hn hsegments h.length
  obtain ⟨first, middle, before, last, rfl, hfirst, hlast, hbefore⟩ := h
  rw [Strategy.drop_of_long] at hdrop ⊢
  have hends : r.naming.callable [first, last] = r.naming.generic :=
    (NamingConvention.callable_pair_eq_generic_iff hn (hsegments _ (by simp))
      (hsegments _ (by simp))).2 ⟨hfirst, hlast⟩
  have hother : r.naming.callable [before, last] ≠ r.naming.generic := fun heq =>
    hbefore ((NamingConvention.callable_pair_eq_generic_iff hn (hsegments _ (by simp))
      (hsegments _ (by simp))).1 heq).1
  refine ⟨?_, hother⟩
  rw [candidates_of_long, hends]
  simp [List.eraseDups_cons, Ne.symm hgeneric, Ne.symm hdrop, hother]

/-- A long path that does not overshoot has the fallback for its last candidate. -/
theorem getLast?_candidates_of_long (hlong : 2 < path.length) (h : ¬ Strategy.Overshoots path) :
    (r.candidates path).getLast? = some r.naming.generic := by
  obtain ⟨hgeneric, -⟩ := callable_ne_of_long hn hsegments hlong
  obtain ⟨first, middle, before, last, rfl⟩ := Strategy.exists_ends hlong
  have hpair : ∀ s ∈ [first, before], r.naming.callable [s, last] = r.naming.generic ↔
      words s = ["command"] ∧ words last = ["executed"] := by
    intro s hs
    refine NamingConvention.callable_pair_eq_generic_iff hn (hsegments s ?_)
      (hsegments last (by simp))
    rcases List.mem_pair.1 hs with rfl | rfl <;> simp
  -- The ends can have the name of the fallback only where the last two segments have it too.
  have hends : r.naming.callable [first, last] = r.naming.generic →
      r.naming.callable [before, last] = r.naming.generic := by
    intro heq
    obtain ⟨hfirst, hlast⟩ := (hpair first (by simp)).1 heq
    refine (hpair before (by simp)).2 ⟨?_, hlast⟩
    by_contra hbefore
    exact h ⟨first, middle, before, last, rfl, hfirst, hlast, hbefore⟩
  rw [candidates_of_long]
  by_cases heq : r.naming.callable [first, last] = r.naming.generic
  · rw [heq, hends heq]
    simp [List.eraseDups_cons, Ne.symm hgeneric]
  · have hnew : r.naming.generic ∉ [r.naming.callable (first :: (middle ++ [before, last])),
        r.naming.callable [first, last]] := by
      rw [List.mem_pair, not_or]
      exact ⟨Ne.symm hgeneric, Ne.symm heq⟩
    by_cases hother : r.naming.callable [before, last] = r.naming.generic
    · rw [hother]
      show ([_, _] ++ [r.naming.generic] ++ [r.naming.generic]).eraseDups.getLast? = _
      rw [Group.eraseDups_concat, if_pos (by simp)]
      exact getLast?_eraseDups_concat hnew
    · show ([_, _, _] ++ [r.naming.generic]).eraseDups.getLast? = _
      refine getLast?_eraseDups_concat ?_
      simpa [Ne.symm hother] using hnew

end

/-- **The order of candidates.** The candidates of a path are different, the name of the whole path
comes first, and the callable that takes every command is one of them. It is the last one unless the
path overshoots: then the name of the last two segments is tried after it. -/
theorem candidates_in_order {naming : NamingConvention} (hn : naming = .snake ∨ naming = .camel)
    {path : List String} (hpath : path ≠ [])
    (hsegments : ∀ s ∈ path, Field.isName s = true) (threshold : Nat) :
    let names := (Resolver.make naming threshold).candidates path
    names.Nodup ∧ names.head? = some (naming.callable path) ∧ naming.generic ∈ names ∧
      (names.getLast? = some naming.generic ↔ ¬ Strategy.Overshoots path) ∧
      (Strategy.Overshoots path → names = [naming.callable path, naming.generic,
        naming.callable (path.drop (path.length - 2))]) := by
  intro names
  have hovershoots := candidates_of_overshoots (r := .make naming threshold) hn hsegments
  refine ⟨Group.nodup_eraseDups _, head?_candidates hpath, generic_mem_candidates _ path, ?_,
    fun h => (hovershoots h).1⟩
  constructor
  · intro hlast h
    obtain ⟨hnames, hother⟩ := hovershoots h
    have hnames : names = _ := hnames
    rw [hnames] at hlast
    exact hother (Option.some.inj hlast)
  · intro h
    rcases Nat.lt_or_ge 2 path.length with hlong | hshort
    · exact getLast?_candidates_of_long (r := .make naming threshold) hn hsegments hlong h
    · exact getLast?_candidates_of_short (r := .make naming threshold) hpath hshort

/-- A path whose ends have the words of the generic name. -/
theorem candidates_in_order_overshooting :
    let path := ["command", "x", "executed"]
    let names := (Resolver.make .camel 3).candidates path
    (∀ s ∈ path, Field.isName s = true) ∧
      names.Nodup ∧ names.head? = some (NamingConvention.camel.callable path) ∧
      NamingConvention.camel.generic ∈ names ∧
      (names.getLast? = some NamingConvention.camel.generic ↔ ¬ Strategy.Overshoots path) ∧
      (Strategy.Overshoots path → names = [NamingConvention.camel.callable path,
        NamingConvention.camel.generic, NamingConvention.camel.callable ["x", "executed"]]) := by
  have hsegments : ∀ s ∈ ["command", "x", "executed"], Field.isName s = true := by decide +kernel
  exact ⟨hsegments, candidates_in_order (.inr rfl) (List.cons_ne_nil _ _) hsegments 3⟩

/-- The callable that takes every command is tried in the middle here. -/
theorem getLast?_candidates_overshooting :
    let path := ["command", "x", "executed"]
    (∀ s ∈ path, Field.isName s = true) ∧
      (Resolver.make .snake 3).candidates path =
        ["on_command_x_executed", "on_command_executed", "on_x_executed"] ∧
      ((Resolver.make .snake 3).candidates path).getLast? ≠
        some NamingConvention.snake.generic := by
  decide +kernel

end Resolver

end Hook

end CliGen
