import CliGen.Proofs.Tree.Reading
import Mathlib.Data.List.Nodup

/-!
# What siblings take

The entries of a container are read one after the other against the names and identifiers that are
taken. Every step takes its own on top of the others, each of them new (`Taken.Grows`), and steps in
a row take theirs together (`Taken.Grows.trans`). So the names and aliases of a container that
passes are pairwise different, and the identifiers of its names are (`collect_ok`).
-/

namespace CliGen.Siblings

open CliGen.Field Outcome

/-- More names and identifiers are taken than before: these ones, in this order, each of them
new. -/
structure Taken.Grows (before : Taken) (names identifiers : List String) (after : Taken) :
    Prop where
  names_eq : after.names = names.reverse ++ before.names
  identifiers_eq : after.identifiers = identifiers.reverse ++ before.identifiers
  nodup_names : before.names.Nodup → after.names.Nodup
  nodup_identifiers : before.identifiers.Nodup → after.identifiers.Nodup

namespace Taken

variable {before between after : Taken} {names more identifiers others : List String}

/-- Where nothing is taken, nothing is added. -/
theorem Grows.refl (t : Taken) : t.Grows [] [] t := ⟨rfl, rfl, id, id⟩

/-- What two steps take is taken by both. -/
theorem Grows.trans (first : before.Grows names identifiers between)
    (second : between.Grows more others after) :
    before.Grows (names ++ more) (identifiers ++ others) after where
  names_eq := by
    rw [second.names_eq, first.names_eq, List.reverse_append, List.append_assoc]
  identifiers_eq := by
    rw [second.identifiers_eq, first.identifiers_eq, List.reverse_append, List.append_assoc]
  nodup_names h := second.nodup_names (first.nodup_names h)
  nodup_identifiers h := second.nodup_identifiers (first.nodup_identifiers h)

/-- Taking a name adds it. -/
theorem grows_takeName {path : List String} {name : String}
    (h : before.takeName path name = .ok after) : before.Grows [name] [] after := by
  unfold takeName at h
  split at h
  next => cases h
  next hnew =>
    cases h
    exact ⟨rfl, rfl, fun hold => List.nodup_cons.2 ⟨by simpa using hnew, hold⟩, id⟩

/-- Taking the identifier of a name adds it. -/
theorem grows_takeIdentifier {path : List String} {name : String}
    (h : before.takeIdentifier path name = .ok after) :
    before.Grows [] [Naming.identifier name] after := by
  unfold takeIdentifier at h
  split at h
  next => cases h
  next hnew =>
    cases h
    exact ⟨rfl, rfl, id, fun hold => List.nodup_cons.2 ⟨by simpa using hnew, hold⟩⟩

/-- Taking names adds them in their order. -/
theorem grows_takeNames {path : List String}
    (h : names.foldlM (·.takeName path) before = .ok after) : before.Grows names [] after := by
  induction names generalizing before with
  | nil => cases h; exact .refl _
  | cons name names ih =>
    rw [List.foldlM_cons] at h
    obtain ⟨between, hfirst, h⟩ := bind_eq_ok.1 h
    exact (grows_takeName hfirst).trans (ih h)

end Taken

/-- The name of an entry, and its aliases. -/
def tokens (parent : List String) (entry : NamedBody) : Outcome (List String) :=
  match entry.2 with
  | .object fields => do return entry.1 :: (← readAliases fields (parent ++ [entry.1]))
  | _ => .ok [entry.1]

section

variable {parent : List String} {taken after : Taken}

/-- What it takes to take an entry: it is called by a name, and all that it is called by is new. -/
theorem takeEntry_ok {entry : NamedBody} (h : takeEntry parent taken entry = .ok after) :
    isName entry.1 = true ∧ ∃ names, tokens parent entry = .ok names ∧
      taken.Grows names [Naming.identifier entry.1] after := by
  obtain ⟨name, body⟩ := entry
  dsimp only [takeEntry] at h
  split at h
  next hname =>
    obtain ⟨named, hnamed, h⟩ := bind_eq_ok.1 h
    obtain ⟨identified, hidentified, h⟩ := bind_eq_ok.1 h
    have hown := (Taken.grows_takeName hnamed).trans (Taken.grows_takeIdentifier hidentified)
    refine ⟨hname, ?_⟩
    split at h
    next fields =>
      obtain ⟨aliases, haliases, h⟩ := bind_eq_ok.1 h
      refine ⟨name :: aliases, ?_, hown.trans (Taken.grows_takeNames h)⟩
      simp only [tokens, haliases, ok_bind, pure_eq_ok]
    next hbody =>
      cases h
      refine ⟨[name], ?_, hown⟩
      cases body <;> first | rfl | exact (hbody _ rfl).elim
  next => cases h

/-- Entries that can all be taken are named, and add their tokens and identifiers in order. -/
theorem takeEntries_ok {entries : List NamedBody}
    (h : entries.foldlM (takeEntry parent) taken = .ok after) :
    (∀ e ∈ entries, isName e.1 = true) ∧ ∃ names, entries.mapM (tokens parent) = .ok names ∧
      taken.Grows names.flatten (entries.map (Naming.identifier ·.1)) after := by
  induction entries generalizing taken with
  | nil => cases h; exact ⟨by simp, [], rfl, .refl _⟩
  | cons e es ih =>
    rw [List.foldlM_cons] at h
    obtain ⟨between, hfirst, h⟩ := bind_eq_ok.1 h
    obtain ⟨hname, own, hown, hgrows⟩ := takeEntry_ok hfirst
    obtain ⟨hnames, others, hothers, hrest⟩ := ih h
    refine ⟨List.forall_mem_cons.2 ⟨hname, hnames⟩, own :: others, ?_, hgrows.trans hrest⟩
    rw [List.mapM_cons, hown, hothers]
    rfl

end

section

variable {container : Option Value} {field : String} {parent : List String}
  {found : List NamedBody}

/-- What it takes for a container to pass: its entries are called by names, all that they are called
by is pairwise different, and so are the identifiers of their names. -/
theorem collect_ok (h : collect container field parent = .ok found) :
    (∀ e ∈ found, isName e.1 = true) ∧ (∃ names, found.mapM (tokens parent) = .ok names ∧
      names.flatten.Nodup) ∧ (found.map (Naming.identifier ·.1)).Nodup := by
  obtain ⟨entries, -, h⟩ := bind_eq_ok.1 h
  obtain ⟨taken, htaken, h⟩ := bind_eq_ok.1 h
  cases h
  obtain ⟨hnames, names, htokens, hgrows⟩ := takeEntries_ok htaken
  have hall := hgrows.nodup_names .nil
  have hidentifiers := hgrows.nodup_identifiers .nil
  rw [hgrows.names_eq] at hall
  rw [hgrows.identifiers_eq] at hidentifiers
  refine ⟨hnames, ⟨names, htokens, ?_⟩, ?_⟩
  · exact List.nodup_reverse.1 hall.of_append_left
  · exact List.nodup_reverse.1 hidentifiers.of_append_left

/-- The entries of a container are called by names. -/
theorem isName_of_collect (h : collect container field parent = .ok found) :
    ∀ e ∈ found, isName e.1 = true :=
  (collect_ok h).1

/-- The identifiers of the names in a container are pairwise different. -/
theorem nodup_identifiers_of_collect (h : collect container field parent = .ok found) :
    (found.map (Naming.identifier ·.1)).Nodup :=
  (collect_ok h).2.2

/-- The names of the entries of a container are pairwise different. -/
theorem nodup_names_of_collect (h : collect container field parent = .ok found) :
    (found.map (·.1)).Nodup := by
  have hidentifiers : ((found.map (·.1)).map Naming.identifier).Nodup := by
    rw [List.map_map]
    exact nodup_identifiers_of_collect h
  exact hidentifiers.of_map _

end

end CliGen.Siblings
