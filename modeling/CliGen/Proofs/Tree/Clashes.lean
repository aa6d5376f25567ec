import CliGen.Proofs.Tree.Listing
import CliGen.Proofs.Tree.Siblings

/-!
# Clashes between siblings

Two entries of a container clash if one name stands for both, or if their names share an identifier.
A container is read in one pass that keeps what is taken so far in two sets. The pass says what the
pairs say (`Siblings.collect_exact`): a container of named entries is refused exactly if two of them
clash, at the first entry that clashes with one in front of it, and else it is read as it is.

## Shape of the proof

`Taken.Holds` tells that the two sets are those of the entries read so far. One entry keeps it if it
clashes with none of them, and is refused if it does (`takeEntry_of_apart`, `takeEntry_of_clash`).
So a run over entries of which no two clash keeps it (`takeEntries_of_apart`), and one over others
ends at the first that does (`exists_firstClash`, `takeEntries_of_firstClash`).
-/

namespace CliGen

/-- Whether a value holds bodies with names: a mapping, or a list of mappings with names. -/
def Value.isContainer : Value → Bool
  | .object _ => true
  | .list items => items.all fun item => ((item.get? "name").bind str?).isSome
  | _ => false

namespace Siblings

open CliGen.Field Outcome

/-! ## What entries are called by -/

/-- The values that a body has for its aliases: those of `aliases`, or of `alias` in its place. -/
def declaredAliases (body : Value) : List Value :=
  match (body.get? "aliases").or (body.get? "alias") with
  | none | some .null => []
  | some (.list items) => items
  | some single => [single]

/-- All that an entry is called by: its name and its aliases. -/
def calledBy (e : NamedBody) : List String := e.1 :: (declaredAliases e.2).filterMap Value.str?

/-- An entry is called by names. -/
structure IsNamed (e : NamedBody) : Prop where
  name : isName e.1 = true
  aliases : ∀ v ∈ declaredAliases e.2, v.str?.any isName = true

instance (e : NamedBody) : Decidable (IsNamed e) :=
  decidable_of_iff (isName e.1 = true ∧ ∀ v ∈ declaredAliases e.2, v.str?.any isName = true)
    ⟨fun h => ⟨h.1, h.2⟩, fun h => ⟨h.name, h.aliases⟩⟩

/-- Two entries clash: both are called by one name, or their names share an identifier. -/
def Clash (d e : NamedBody) : Prop :=
  (∃ name ∈ calledBy d, name ∈ calledBy e) ∨ Naming.identifier d.1 = Naming.identifier e.1

instance (d e : NamedBody) : Decidable (Clash d e) := inferInstanceAs (Decidable (_ ∨ _))

/-- The first entry that clashes with one in front of it. -/
def FirstClash (found : List NamedBody) (e : NamedBody) : Prop :=
  ∃ before after, found = before ++ e :: after ∧ (before.Pairwise fun c d => ¬ Clash c d) ∧
    ∃ d ∈ before, Clash d e

/-- Where entries clash, there is a first one that does. -/
theorem exists_firstClash {found : List NamedBody}
    (h : ¬ found.Pairwise fun c d => ¬ Clash c d) : ∃ e, FirstClash found e := by
  induction found using List.reverseRecOn with
  | nil => exact absurd .nil h
  | append_singleton found e ih =>
    by_cases hbefore : found.Pairwise fun c d => ¬ Clash c d
    · refine ⟨e, found, [], rfl, hbefore, ?_⟩
      by_contra hnone
      refine h (List.pairwise_append.2 ⟨hbefore, List.pairwise_singleton _ e, ?_⟩)
      rintro d hd _ he hclash
      rw [List.mem_singleton.1 he] at hclash
      exact hnone ⟨d, hd, hclash⟩
    · obtain ⟨d, before, after, rfl, hfirst⟩ := ih hbefore
      exact ⟨d, before, after ++ [e], by simp, hfirst⟩

/-! ## Reading the aliases of an entry -/

/-- Aliases are kept in order, each once and without the entry's own name. -/
private theorem foldlM_aliases {own : String} {f : List String → Value → Outcome (List String)}
    (hf : ∀ kept name, isName name = true →
      f kept (.str name) = .ok (if name ∈ own :: kept then kept else kept ++ [name]))
    {values : List Value} (hvalues : ∀ v ∈ values, v.str?.any isName = true) {kept : List String}
    (hkept : (own :: kept).Nodup) :
    ∃ names, values.foldlM f kept = .ok names ∧ (own :: names).Nodup ∧
      ∀ n, n ∈ own :: names ↔ n ∈ own :: kept ∨ n ∈ values.filterMap Value.str? := by
  induction values generalizing kept with
  | nil => exact ⟨kept, rfl, hkept, by simp⟩
  | cons v values ih =>
    rw [List.forall_mem_cons] at hvalues
    obtain ⟨hv, hvalues⟩ := hvalues
    cases v with
    | str name =>
      have hrest : (Value.str name :: values).filterMap Value.str? =
          name :: values.filterMap Value.str? := rfl
      rw [List.foldlM_cons, hf kept name hv, ok_bind, hrest]
      -- A name that is known already is passed over.
      by_cases hold : name ∈ own :: kept
      · obtain ⟨names, hnames, hnodup, hmem⟩ := ih hvalues hkept
        rw [if_pos hold]
        refine ⟨names, hnames, hnodup, fun n => ?_⟩
        rw [hmem, List.mem_cons (l := values.filterMap Value.str?), ← or_assoc]
        have hname : n ∈ own :: kept ∨ n = name ↔ n ∈ own :: kept :=
          or_iff_left_of_imp fun hn => hn ▸ hold
        rw [hname]
      · have hnew : (own :: (kept ++ [name])).Nodup := by
          rw [← List.cons_append, ← List.concat_eq_append]
          exact hkept.concat hold
        obtain ⟨names, hnames, hnodup, hmem⟩ := ih hvalues hnew
        rw [if_neg hold]
        refine ⟨names, hnames, hnodup, fun n => ?_⟩
        rw [hmem, List.mem_cons (l := values.filterMap Value.str?), ← List.cons_append,
          List.mem_append, List.mem_singleton, or_assoc]
    | _ => cases hv

/-- The aliases that are read for an entry stand with its name for all that it is called by. -/
private theorem readAliases_of_named {fields : Fields} {own : String} (parent : List String)
    (h : IsNamed (own, .object fields)) :
    ∃ aliases, readAliases fields (parent ++ [own]) = .ok aliases ∧ (own :: aliases).Nodup ∧
      ∀ n, n ∈ own :: aliases ↔ n ∈ calledBy (own, .object fields) := by
  have hkept : (own :: ([] : List String)).Nodup := List.nodup_singleton own
  have hcalled : ∀ n, n ∈ calledBy (own, .object fields) ↔
      n ∈ [own] ∨ n ∈ (declaredAliases (.object fields)).filterMap Value.str? := fun n => by
    rw [calledBy, List.mem_singleton, List.mem_cons]
  simp only [hcalled]
  unfold readAliases
  refine foldlM_aliases (fun kept name hname => ?_) h.aliases hkept
  have hlast : (parent ++ [own]).getLast? = some own := List.getLast?_concat
  simp only [hname, Bool.not_true, Bool.false_eq_true, if_false, hlast]
  have hold : (some own == some name || kept.contains name) = true ↔ name ∈ own :: kept := by
    rw [Bool.or_eq_true, beq_iff_eq, Option.some_inj, List.contains_iff_mem, List.mem_cons,
      eq_comm]
  simp only [hold]
  split <;> rfl

/-! ## Taking one entry -/

namespace Taken

/-- What is taken are the names and identifiers of some entries. -/
structure Holds (t : Taken) (before : List NamedBody) : Prop where
  names : ∀ n, n ∈ t.names ↔ ∃ d ∈ before, n ∈ calledBy d
  identifiers : ∀ i, i ∈ t.identifiers ↔ ∃ d ∈ before, Naming.identifier d.1 = i

/-- Nothing is taken in front of the first entry. -/
theorem holds_none : none.Holds [] := ⟨by simp [none], by simp [none]⟩

variable {t after : Taken} {path names : List String}

/-- One more entry has its names and its identifier on top of the others. -/
theorem Holds.concat {before : List NamedBody} {e : NamedBody} (ht : t.Holds before)
    (hnames : ∀ n, n ∈ after.names ↔ n ∈ t.names ∨ n ∈ calledBy e)
    (hidentifiers : ∀ i, i ∈ after.identifiers ↔ i ∈ t.identifiers ∨ Naming.identifier e.1 = i) :
    after.Holds (before ++ [e]) where
  names n := by
    rw [hnames, ht.names]
    simp [or_and_right, exists_or]
  identifiers i := by
    rw [hidentifiers, ht.identifiers]
    simp [or_and_right, exists_or]

/-- Names are refused if one of them is taken. -/
theorem takeNames_of_taken {name : String} (hname : name ∈ names) (htaken : name ∈ t.names) :
    names.foldlM (·.takeName path) t = .error (.duplicateCommand path) := by
  induction names generalizing t with
  | nil => cases hname
  | cons n names ih =>
    rw [List.foldlM_cons, takeName]
    split
    next => rfl
    next hnew =>
      rcases List.mem_cons.1 hname with rfl | hname
      · exact absurd (List.contains_iff_mem.2 htaken) hnew
      · exact ih hname (List.mem_cons_of_mem n htaken)

/-- Names that are new and pairwise different are taken. -/
theorem takeNames_of_new (hnodup : names.Nodup) (hnew : ∀ n ∈ names, n ∉ t.names) :
    names.foldlM (·.takeName path) t = .ok { t with names := names.reverse ++ t.names } := by
  induction names generalizing t with
  | nil => rfl
  | cons n names ih =>
    rw [List.nodup_cons] at hnodup
    rw [List.forall_mem_cons] at hnew
    have hfirst : ¬ t.names.contains n = true := fun h => hnew.1 (List.contains_iff_mem.1 h)
    rw [List.foldlM_cons, takeName, if_neg hfirst, ok_bind, ih hnodup.2, List.reverse_cons,
      List.append_assoc, List.singleton_append]
    intro m hm hmem
    rcases List.mem_cons.1 hmem with rfl | hmem
    · exact hnodup.1 hm
    · exact hnew.2 m hm hmem

end Taken

section

variable {parent : List String} {t : Taken} {before found : List NamedBody} {e : NamedBody}

/-- What is done with an entry that is called by names: its name is taken, the identifier of its
name, and then its aliases. -/
theorem takeEntry_of_named (parent : List String) (t : Taken) (he : IsNamed e) :
    ∃ aliases, (e.1 :: aliases).Nodup ∧ (∀ n, n ∈ e.1 :: aliases ↔ n ∈ calledBy e) ∧
      takeEntry parent t e = (do
        let named ← t.takeName (parent ++ [e.1]) e.1
        let identified ← named.takeIdentifier (parent ++ [e.1]) e.1
        aliases.foldlM (·.takeName (parent ++ [e.1])) identified) := by
  obtain ⟨own, body⟩ := e
  have hown : isName own = true := he.name
  cases body with
  | object fields =>
    obtain ⟨aliases, hread, hnodup, hmem⟩ := readAliases_of_named parent he
    refine ⟨aliases, hnodup, hmem, ?_⟩
    simp only [takeEntry, hown, hread, if_true, ok_bind]
  | _ =>
    refine ⟨[], List.nodup_singleton own, fun n => Iff.rfl, ?_⟩
    simp only [takeEntry, hown, if_true, pure_eq_ok, List.foldlM_nil]

/-- An entry that clashes with one of those in front of it is refused. -/
theorem takeEntry_of_clash (ht : t.Holds before) (he : IsNamed e)
    (hclash : ∃ d ∈ before, Clash d e) :
    takeEntry parent t e = .error (.duplicateCommand (parent ++ [e.1])) := by
  obtain ⟨aliases, -, hmem, htake⟩ := takeEntry_of_named parent t he
  rw [htake, Taken.takeName]
  split
  next => rfl
  next hname =>
    rw [ok_bind, Taken.takeIdentifier]
    split
    next => rfl
    next hidentifier =>
      -- neither the name nor its identifier is taken, so it is an alias that is
      rw [List.contains_iff_mem] at hname hidentifier
      obtain ⟨d, hd, ⟨n, hnd, hne⟩ | hsame⟩ := hclash
      · have htaken : n ∈ t.names := (ht.names n).2 ⟨d, hd, hnd⟩
        rcases List.mem_cons.1 ((hmem n).2 hne) with rfl | halias
        · exact absurd htaken hname
        · exact Taken.takeNames_of_taken halias (List.mem_cons_of_mem e.1 htaken)
      · exact absurd ((ht.identifiers _).2 ⟨d, hd, hsame⟩) hidentifier

/-- An entry that clashes with none of those in front of it is taken. -/
theorem takeEntry_of_apart (ht : t.Holds before) (he : IsNamed e)
    (hapart : ∀ d ∈ before, ¬ Clash d e) :
    ∃ after, takeEntry parent t e = .ok after ∧ after.Holds (before ++ [e]) := by
  obtain ⟨aliases, hnodup, hmem, htake⟩ := takeEntry_of_named parent t he
  have hnew : ∀ n ∈ e.1 :: aliases, n ∉ t.names := by
    intro n hn htaken
    obtain ⟨d, hd, hnd⟩ := (ht.names n).1 htaken
    exact hapart d hd (.inl ⟨n, hnd, (hmem n).1 hn⟩)
  have hown : ¬ t.names.contains e.1 = true := fun h =>
    hnew e.1 List.mem_cons_self (List.contains_iff_mem.1 h)
  have hidentifier : ¬ t.identifiers.contains (Naming.identifier e.1) = true := by
    intro htaken
    obtain ⟨d, hd, hsame⟩ := (ht.identifiers _).1 (List.contains_iff_mem.1 htaken)
    exact hapart d hd (.inr hsame)
  have haliases : ∀ n ∈ aliases, n ∉ e.1 :: t.names := by
    intro n hn htaken
    rcases List.mem_cons.1 htaken with rfl | htaken
    · exact (List.nodup_cons.1 hnodup).1 hn
    · exact hnew n (List.mem_cons_of_mem e.1 hn) htaken
  rw [htake, Taken.takeName, if_neg hown, ok_bind, Taken.takeIdentifier, if_neg hidentifier,
    ok_bind, Taken.takeNames_of_new (List.nodup_cons.1 hnodup).2 haliases]
  refine ⟨_, rfl, ht.concat (fun n => ?_) fun i => ?_⟩
  · rw [← hmem, List.mem_append, List.mem_reverse, List.mem_cons, List.mem_cons]
    tauto
  · rw [List.mem_cons, or_comm, eq_comm]

/-- Entries of which no two clash are taken. -/
theorem takeEntries_of_apart (ht : t.Holds before) (hnamed : ∀ e ∈ found, IsNamed e)
    (hapart : (before ++ found).Pairwise fun d e => ¬ Clash d e) :
    ∃ after, found.foldlM (takeEntry parent) t = .ok after ∧ after.Holds (before ++ found) := by
  induction found generalizing t before with
  | nil => exact ⟨t, rfl, by rwa [List.append_nil]⟩
  | cons e found ih =>
    rw [List.forall_mem_cons] at hnamed
    rw [List.append_cons] at hapart ⊢
    have hbefore := (List.pairwise_append.1 hapart).1
    have hfirst : ∀ d ∈ before, ¬ Clash d e := fun d hd =>
      (List.pairwise_append.1 hbefore).2.2 d hd e (List.mem_singleton_self e)
    obtain ⟨next, hstep, hnext⟩ := takeEntry_of_apart ht hnamed.1 hfirst
    rw [List.foldlM_cons, hstep, ok_bind]
    exact ih hnext hnamed.2 hapart

/-- Entries are refused at the first one that clashes. -/
theorem takeEntries_of_firstClash (hnamed : ∀ e ∈ found, IsNamed e) (hclash : FirstClash found e) :
    found.foldlM (takeEntry parent) Taken.none =
      .error (.duplicateCommand (parent ++ [e.1])) := by
  obtain ⟨before, after, rfl, hapart, hclash⟩ := hclash
  rw [List.forall_mem_append, List.forall_mem_cons] at hnamed
  obtain ⟨between, hbefore, hholds⟩ := takeEntries_of_apart Taken.holds_none hnamed.1 hapart
  rw [List.foldlM_append, hbefore, ok_bind, List.foldlM_cons,
    takeEntry_of_clash hholds hnamed.2.1 hclash, error_bind]

/-! ## Reading a container -/

/-- A container holds the entries that it declares. -/
theorem entries_of_isContainer {v : Value} (hv : v.isContainer = true) (field : String)
    (parent : List String) : entries (some v) field parent = .ok v.declared := by
  cases v with
  | object fields => rfl
  | list items =>
    refine mapM_eq_ok.2 (List.forall₂_map_right_iff.2 (List.forall₂_same.2 fun item hitem => ?_))
    have hname : ((item.get? "name").bind Value.str?).isSome = true :=
      List.all_eq_true.1 hv item hitem
    obtain ⟨name, hname⟩ := Option.isSome_iff_exists.1 hname
    obtain ⟨w, hw, hstr⟩ := Option.bind_eq_some_iff.1 hname
    simp only [hw, Value.textAt, Value.field, Option.bind_some, Option.getD_some, hstr]
  | _ => cases hv

variable {v : Value}

/-- A container is collected by taking its entries in order. -/
theorem collect_of_isContainer (hv : v.isContainer = true) (field : String)
    (parent : List String) : collect (some v) field parent =
      (v.declared.foldlM (takeEntry parent) Taken.none >>= fun _ => .ok v.declared) := by
  rw [collect, entries_of_isContainer hv field parent]
  rfl

/-- A container of which no two entries clash is read. -/
theorem collect_of_apart (hv : v.isContainer = true) (hnamed : ∀ e ∈ v.declared, IsNamed e)
    (hapart : v.declared.Pairwise fun d e => ¬ Clash d e) (field : String)
    (parent : List String) : collect (some v) field parent = .ok v.declared := by
  have hall : ∃ after, v.declared.foldlM (takeEntry parent) Taken.none = .ok after ∧
      after.Holds v.declared := takeEntries_of_apart Taken.holds_none hnamed hapart
  obtain ⟨after, hall, -⟩ := hall
  rw [collect_of_isContainer hv, hall, ok_bind]

/-- A container with entries that clash is refused at the first one of them. -/
theorem collect_of_firstClash (hv : v.isContainer = true) (hnamed : ∀ e ∈ v.declared, IsNamed e)
    (hclash : FirstClash v.declared e) (field : String) (parent : List String) :
    collect (some v) field parent = .error (.duplicateCommand (parent ++ [e.1])) := by
  rw [collect_of_isContainer hv, takeEntries_of_firstClash hnamed hclash, error_bind]

/-- **Where a container is refused.** A container whose entries are called by names is refused as
having a duplicate exactly if two of its entries clash. The path that is told is that of the first
entry in the order of declaration that clashes with one in front of it. A container of which no two
entries clash is read as all its entries, in that order, each with its own body. -/
theorem collect_exact (hv : v.isContainer = true) (hnamed : ∀ e ∈ v.declared, IsNamed e)
    (field : String) (parent : List String) :
    ((∃ path, collect (some v) field parent = .error (.duplicateCommand path)) ↔
      ∃ d e, [d, e].Sublist v.declared ∧ Clash d e) ∧
    (∀ path, collect (some v) field parent = .error (.duplicateCommand path) ↔
      ∃ e, FirstClash v.declared e ∧ path = parent ++ [e.1]) ∧
    ((∀ d e, [d, e].Sublist v.declared → ¬ Clash d e) →
      collect (some v) field parent = .ok v.declared) := by
  have hpairs : (v.declared.Pairwise fun d e => ¬ Clash d e) ↔
      ∀ d e, [d, e].Sublist v.declared → ¬ Clash d e := List.pairwise_iff_forall_sublist
  have hpath : ∀ path, collect (some v) field parent = .error (.duplicateCommand path) ↔
      ∃ e, FirstClash v.declared e ∧ path = parent ++ [e.1] := by
    intro path
    constructor
    · intro h
      have hclash : ¬ v.declared.Pairwise fun d e => ¬ Clash d e := fun hapart => by
        rw [collect_of_apart hv hnamed hapart] at h
        cases h
      obtain ⟨e, he⟩ := exists_firstClash hclash
      rw [collect_of_firstClash hv hnamed he] at h
      cases h
      exact ⟨e, he, rfl⟩
    · rintro ⟨e, he, rfl⟩
      exact collect_of_firstClash hv hnamed he field parent
  refine ⟨?_, hpath, fun hnone => collect_of_apart hv hnamed (hpairs.2 hnone) field parent⟩
  constructor
  · rintro ⟨path, h⟩
    by_contra hnone
    push Not at hnone
    rw [collect_of_apart hv hnamed (hpairs.2 hnone)] at h
    cases h
  · rintro ⟨d, e, hsub, hclash⟩
    obtain ⟨first, hfirst⟩ := exists_firstClash fun hapart => hpairs.1 hapart d e hsub hclash
    exact ⟨_, collect_of_firstClash hv hnamed hfirst field parent⟩

/-- A command that lists its own name and one alias twice among its aliases, one with a single
alias, and one that is called as the first may be. -/
def removing : Value := .object
  [("remove", .object [("aliases", .list [.str "rm", .str "remove", .str "rm"])]),
    ("copy", .object [("alias", .str "cp")]),
    ("rm", .null)]

/-- The last command has the name that is an alias of the first, and is refused. -/
theorem collect_exact_removing :
    removing.isContainer = true ∧ (∀ e ∈ removing.declared, IsNamed e) ∧
      collect (some removing) "subcommands" ["files"] =
        .error (.duplicateCommand ["files", "rm"]) := by
  have hcontainer : removing.isContainer = true := rfl
  have hnamed : ∀ e ∈ removing.declared, IsNamed e := by decide +kernel
  have hpath := (collect_exact hcontainer hnamed "subcommands" ["files"]).2.1 ["files", "rm"]
  refine ⟨hcontainer, hnamed, hpath.2 ⟨("rm", .null), ?_, rfl⟩⟩
  refine ⟨removing.declared.take 2, [], rfl, by decide +kernel, _, List.mem_cons_self, ?_⟩
  exact .inl ⟨"rm", by decide +kernel, by decide +kernel⟩

end

end Siblings

end CliGen
