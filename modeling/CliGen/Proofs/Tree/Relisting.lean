import CliGen.Proofs.Tree.Congruence

/-!
# Two ways to write commands

Commands are written as a mapping from names to bodies, or as a list of bodies with names. A
document is relisted by writing some of its mappings as lists, at any places (`Relisted`); nothing
else changes. `build_relisted` says that such documents are read alike, whatever the ceiling.

## Shape of the proof

* `Relisted.alike`, `RelistedItem.alike`: bodies that are relisted, also with a name put in, say the
  same of their command, and the containers below are relisted again.
* `entries_agree`: containers that are relisted meet the same problem, or have entries of the same
  names whose bodies are alike.
* `readAlike_relisted`: so entries that are alike are read alike, and the recursion reads the same
  command at any depth (`readNested_alike`).
-/

namespace CliGen

open Outcome

mutual

/-- A body, or a whole document, in which some mappings of commands are written as lists. -/
inductive Relisted : Value → Value → Prop where
  | same (v : Value) : Relisted v v
  | mapping {fields fields' : Fields} (each : List.Forall₂ RelistedField fields fields') :
      Relisted (.object fields) (.object fields')

/-- A field stays as it is, or commands are relisted in it. -/
inductive RelistedField : String × Value → String × Value → Prop where
  | same (field : String × Value) : RelistedField field field
  | description {v v' : Value} (inside : Relisted v v') : RelistedField ("cli", v) ("cli", v')
  | commands {key : String} {v v' : Value} (hkey : key = "commands" ∨ key = "subcommands")
      (inside : RelistedCommands v v') : RelistedField (key, v) (key, v')

/-- A container of commands keeps its form, or it is a mapping that is written as a list. -/
inductive RelistedCommands : Value → Value → Prop where
  | same (v : Value) : RelistedCommands v v
  | mapping {entries entries' : Fields} (each : List.Forall₂ RelistedEntry entries entries') :
      RelistedCommands (.object entries) (.object entries')
  | list {items items' : List Value} (each : List.Forall₂ Relisted items items') :
      RelistedCommands (.list items) (.list items')
  | relist {entries : Fields} {items : List Value}
      (each : List.Forall₂ RelistedItem entries items) :
      RelistedCommands (.object entries) (.list items)

/-- An entry of a mapping keeps its key. -/
inductive RelistedEntry : String × Value → String × Value → Prop where
  | entry (name : String) {v v' : Value} (inside : Relisted v v') :
      RelistedEntry (name, v) (name, v')

/-- An entry whose value is a mapping is written as that mapping, with `name` set to its key. -/
inductive RelistedItem : String × Value → Value → Prop where
  | item (name : String) {v : Value} {fields : Fields} (inside : Relisted v (.object fields)) :
      RelistedItem (name, v) (.object (fields.put "name" (.str name)))

end

/-! ## Bodies that are alike -/

/-- The fields that may change are those of commands, the description inside a document, and the
name of an item. -/
def IsOwnKey (key : String) : Prop :=
  key ≠ "name" ∧ key ≠ "cli" ∧ key ≠ "commands" ∧ key ≠ "subcommands"

instance (key : String) : Decidable (IsOwnKey key) := inferInstanceAs (Decidable (_ ∧ _))

/-- Two bodies say the same of the command itself, and the commands below it are relisted. -/
structure AlikeFields (fields fields' : Fields) : Prop where
  own : ∀ key, IsOwnKey key → fields.get? key = fields'.get? key
  subcommands :
    Option.Rel RelistedCommands (fields.get? "subcommands") (fields'.get? "subcommands")

/-- Two bodies are the same, or mappings that are alike. -/
inductive Alike : Value → Value → Prop where
  | same (v : Value) : Alike v v
  | mapping {fields fields' : Fields} (h : AlikeFields fields fields') :
      Alike (.object fields) (.object fields')

section

variable {fields fields' : Fields}

/-- What is found at a key of relisted fields. -/
theorem get?_relisted (h : List.Forall₂ RelistedField fields fields') (key : String) :
    Option.Rel (fun v v' => RelistedField (key, v) (key, v')) (fields.get? key)
      (fields'.get? key) := by
  induction h with
  | nil => exact .none
  | @cons field field' rest rest' hfield _ ih =>
    obtain ⟨k, v⟩ := field
    obtain ⟨k', v'⟩ := field'
    have hkey : k = k' := by cases hfield <;> rfl
    subst hkey
    rw [Fields.get?, Fields.get?]
    by_cases hk : k = key
    · subst hk
      rw [if_pos rfl, if_pos rfl]
      exact .some hfield
    · rw [if_neg hk, if_neg hk]
      exact ih

/-- Fields that hold no commands are the same in either form. -/
theorem get?_relisted_of_ne (h : List.Forall₂ RelistedField fields fields') {key : String}
    (hcli : key ≠ "cli") (hcommands : key ≠ "commands") (hsubcommands : key ≠ "subcommands") :
    fields.get? key = fields'.get? key := by
  have hkey := get?_relisted h key
  generalize fields.get? key = found, fields'.get? key = found' at hkey
  cases hkey with
  | none => rfl
  | some hfield =>
    cases hfield with
    | same => rfl
    | description => exact absurd rfl hcli
    | commands hkey => exact absurd hkey (not_or.2 ⟨hcommands, hsubcommands⟩)

/-- Fields that hold commands hold the same ones in either form. -/
theorem get?_relisted_commands (h : List.Forall₂ RelistedField fields fields') {key : String}
    (hkey : key = "commands" ∨ key = "subcommands") :
    Option.Rel RelistedCommands (fields.get? key) (fields'.get? key) := by
  have hfound := get?_relisted h key
  generalize fields.get? key = found, fields'.get? key = found' at hfound
  cases hfound with
  | none => exact .none
  | some hfield =>
    cases hfield with
    | same => exact .some (.same _)
    | description => simp at hkey
    | commands _ inside => exact .some inside

/-- Fields in either form are read alike. -/
theorem AlikeFields.of_relisted (h : List.Forall₂ RelistedField fields fields') :
    AlikeFields fields fields' where
  own _ hkey := get?_relisted_of_ne h hkey.2.1 hkey.2.2.1 hkey.2.2.2
  subcommands := get?_relisted_commands h (.inr rfl)

/-- A name that is put in says nothing of the command itself. -/
theorem AlikeFields.put_name (h : AlikeFields fields fields') (name : String) :
    AlikeFields fields (fields'.put "name" (.str name)) where
  own key hkey := by
    rw [Fields.get?_put, if_neg (Ne.symm hkey.1)]
    exact h.own key hkey
  subcommands := by
    rw [Fields.get?_put, if_neg (by decide)]
    exact h.subcommands

end

/-- Descriptions in either form are read alike. -/
theorem Relisted.alike {v v' : Value} (h : Relisted v v') : Alike v v' := by
  cases h with
  | same => exact .same v
  | mapping each => exact .mapping (.of_relisted each)

/-- Fields are read as they are read. -/
theorem AlikeFields.refl (fields : Fields) : AlikeFields fields fields where
  own _ _ := rfl
  subcommands := by
    cases fields.get? "subcommands" with
    | none => exact .none
    | some v => exact .some (.same v)

/-- An entry of a mapping and the item of a list in its place are read alike. -/
theorem RelistedItem.alike {entry : String × Value} {item : Value} (h : RelistedItem entry item) :
    Alike entry.2 item := by
  obtain ⟨name, inside⟩ := h
  cases inside with
  | same => exact .mapping ((AlikeFields.refl _).put_name name)
  | mapping each => exact .mapping ((AlikeFields.of_relisted each).put_name name)

/-! ## Readers look at their own keys -/

section

open CliGen.Field

variable {fields fields' : Fields} (h : AlikeFields fields fields') (path : List String)

include h

/-- What belongs to the command itself is the same. -/
theorem AlikeFields.present?_eq {key : String} (hkey : IsOwnKey key) :
    fields.present? key = fields'.present? key := by
  rw [Fields.present?, Fields.present?, h.own key hkey]

/-- Options do not depend on the form of the commands. -/
theorem Param.readOptions_alike :
    Param.readOptions fields path = Param.readOptions fields' path := by
  rw [Param.readOptions, Param.readOptions, mappings_congr (h.present?_eq (by decide))]

/-- Aliases do not depend on the form of the commands. -/
theorem Siblings.readAliases_alike :
    Siblings.readAliases fields path = Siblings.readAliases fields' path := by
  rw [readAliases, readAliases, h.own "aliases" (by decide), h.own "alias" (by decide)]

/-- A command does not depend on the form of those below it. -/
theorem Build.readCommand_alike (parentPath : List String) (name : String) :
    readCommand parentPath name (.object fields) =
      readCommand parentPath name (.object fields') := by
  have harguments (path : List String) :
      Param.readArguments fields path = Param.readArguments fields' path := by
    rw [Param.readArguments, Param.readArguments, mappings_congr (h.present?_eq (by decide))]
  have hown : ∀ key ∈ ["desc", "description", "lifecycle", "icon", "hidden"], IsOwnKey key := by
    decide
  exact readCommand_congr (fun key hkey => h.present?_eq (hown key hkey)) (harguments _)
    (Param.readOptions_alike h _) (Siblings.readAliases_alike h _)

end

/-! ## Containers that are relisted -/

namespace Siblings

variable {parent : List String}

/-- Entries of the same name whose bodies are alike. -/
abbrev AlikeEntries (e e' : NamedBody) : Prop := e.1 = e'.1 ∧ Alike e.2 e'.2

/-- Entries in either form take the same names. -/
theorem takeEntry_alike {e e' : NamedBody} (h : AlikeEntries e e') (taken : Taken) :
    takeEntry parent taken e = takeEntry parent taken e' := by
  obtain ⟨name, v⟩ := e
  obtain ⟨name', v'⟩ := e'
  obtain ⟨rfl, halike⟩ := h
  cases halike with
  | same => rfl
  | mapping h => simp only [takeEntry, readAliases_alike h]

/-- The name of a body is not changed when commands inside it are relisted. -/
theorem get?_name_relisted {v v' : Value} (h : Relisted v v') : v.get? "name" = v'.get? "name" := by
  cases h with
  | same => rfl
  | mapping each => exact get?_relisted_of_ne each (by decide) (by decide) (by decide)

/-- The items of a list have the names of the entries that they are written for. -/
theorem entries_items {field : String} {es : Fields} {items : List Value}
    (h : List.Forall₂ RelistedItem es items) : ∃ es', entries (some (.list items)) field parent =
      .ok es' ∧ List.Forall₂ AlikeEntries es es' := by
  simp only [entries]
  induction h with
  | nil => exact ⟨[], rfl, .nil⟩
  | @cons e item es items hitem _ ih =>
    obtain ⟨es', hes', halike⟩ := ih
    have hbody : Alike e.2 item := hitem.alike
    have hname : item.get? "name" = some (.str e.1) := by
      obtain ⟨name, -⟩ := hitem
      rw [Value.get?, Fields.get?_put, if_pos rfl]
    refine ⟨(e.1, item) :: es', ?_, .cons ⟨rfl, hbody⟩ halike⟩
    rw [List.mapM_cons, hname, hes']
    rfl

/-- Containers that are relisted have entries of the same names whose bodies are alike. -/
theorem entries_agree {container container' : Option Value}
    (h : Option.Rel RelistedCommands container container') (field : String) :
    Agree (List.Forall₂ AlikeEntries) (entries container field parent)
      (entries container' field parent) := by
  have hsame (es : List NamedBody) : List.Forall₂ AlikeEntries es es :=
    List.forall₂_same.2 fun e _ => ⟨rfl, .same e.2⟩
  cases h with
  | none => exact .of_eq hsame rfl
  | some h =>
    cases h with
    | same => exact .of_eq hsame rfl
    | mapping each =>
      refine .ok (each.imp fun e e' he => ?_)
      obtain ⟨name, inside⟩ := he
      exact ⟨rfl, inside.alike⟩
    | list each =>
      refine Agree.mapM (fun item item' hitem => ?_) each
      rw [← get?_name_relisted hitem]
      split
      · exact .ok ⟨rfl, hitem.alike⟩
      · exact .error _
    | relist each =>
      obtain ⟨es', hes', halike⟩ := entries_items each
      rw [hes']
      exact .ok halike

end Siblings

/-! ## The same tree, or the same problem -/

namespace Build

open CliGen.Field

/-- Commands below commands that are read alike are the same ones in either form. -/
theorem get?_subcommands_alike {v v' : Value} (h : Alike v v') :
    Option.Rel RelistedCommands (v.get? "subcommands") (v'.get? "subcommands") := by
  cases h with
  | same => cases v.get? "subcommands" <;> first | exact .none | exact .some (.same _)
  | mapping h => exact h.subcommands

/-- Alike entries are read as the same command, and the commands below it are alike again. -/
theorem readAlike_relisted : ReadAlike Siblings.AlikeEntries where
  name_eq h := h.1
  command_eq := by
    rintro ⟨name, v⟩ ⟨name', v'⟩ ⟨rfl, halike⟩ path
    cases halike with
    | same => rfl
    | mapping h => exact readCommand_alike h path name
  take_eq h _ taken := Siblings.takeEntry_alike h taken
  below h _ := Siblings.entries_agree (get?_subcommands_alike h.2) "subcommands"

/-- If entries are read alike one by one, they are read alike in a row. -/
theorem mapM_congr_of_alike {f : NamedBody → Outcome Command}
    (hf : ∀ e e', Siblings.AlikeEntries e e' → f e = f e') {es es' : List NamedBody}
    (h : List.Forall₂ Siblings.AlikeEntries es es') : es.mapM f = es'.mapM f :=
  mapM_congr_of_forall₂ hf h

/-- Alike entries are read as the same command with the same commands below it. -/
theorem readNested_alike (limit : Nat) (path : List String) {e e' : NamedBody}
    (h : Siblings.AlikeEntries e e') : readNested limit path e = readNested limit path e' :=
  readAlike_relisted.readNested_congr limit path h

/-- What stands above the commands does not depend on their form. -/
theorem readHead_relisted {fields fields' : Fields}
    (h : List.Forall₂ RelistedField fields fields') : readHead fields = readHead fields' := by
  have hplain : ∀ key ∈ ["name", "version", "tagline", "description"],
      key ≠ "cli" ∧ key ≠ "commands" ∧ key ≠ "subcommands" := by decide
  refine readHead_congr (fun key hkey => ?_) (Param.readOptions_alike (.of_relisted h) [])
  obtain ⟨hcli, hcommands, hsubcommands⟩ := hplain key hkey
  rw [Fields.present?, Fields.present?, get?_relisted_of_ne h hcli hcommands hsubcommands]

end Build

/-- Containers that are relisted meet the same problem or pass alike. -/
theorem Siblings.collect_agree {container container' : Option Value} {parent : List String}
    (h : Option.Rel RelistedCommands container container') (field : String) :
    Agree (List.Forall₂ AlikeEntries) (collect container field parent)
      (collect container' field parent) :=
  Build.readAlike_relisted.collect_agree (entries_agree h field)

/-- A section for the command line is in either form if what it holds is. -/
theorem RelistedField.inside {v v' : Value} (h : RelistedField ("cli", v) ("cli", v')) :
    Relisted v v' := by
  cases h with
  | same => exact .same v
  | description inside => exact inside
  | commands hkey => simp at hkey

/-- The descriptions inside relisted documents are relisted. -/
theorem cliSection?_relisted {document document' : Value} (h : Relisted document document') :
    Option.Rel (List.Forall₂ RelistedField) (cliSection? document) (cliSection? document') := by
  have hsame (fields : Fields) : List.Forall₂ RelistedField fields fields :=
    List.forall₂_same.2 fun field _ => .same field
  cases h with
  | same =>
    cases cliSection? document with
    | none => exact .none
    | some fields => exact .some (hsame fields)
  | @mapping fields fields' each =>
    have hcli := get?_relisted each "cli"
    simp only [cliSection?, Value.get?, Value.object?]
    generalize fields.get? "cli" = found, fields'.get? "cli" = found' at hcli
    cases hcli with
    | none => exact .some each
    | @some v v' hfield =>
      have hinside : Relisted v v' := hfield.inside
      cases hinside with
      | same =>
        cases v with
        | object inner => exact .some (hsame inner)
        | _ => exact .some each
      | mapping inner => exact .some inner

/-- **The two ways to write commands agree.** A document in which mappings of commands are written
as lists, at any places, is read as the same tree or meets the same problem, whatever the
ceiling. -/
theorem CommandTree.build_relisted {document document' : Value} (h : Relisted document document')
    (maxDepth : Nat) : build maxDepth document' = build maxDepth document := by
  rw [build_eq_buildNested, build_eq_buildNested, buildNested, buildNested]
  have hsection := cliSection?_relisted h
  generalize cliSection? document = found, cliSection? document' = found' at hsection
  cases hsection with
  | none => rfl
  | some hfields =>
    dsimp only
    rw [Build.readHead_relisted hfields]
    refine bind_congr fun head => Eq.symm (Agree.eq ?_)
    refine (Siblings.collect_agree (get?_relisted_commands hfields (.inl rfl)) "commands").bind ?_
    intro entries entries' halike
    have hcommands : entries.mapM (Build.readNested (max maxDepth 1) []) =
        entries'.mapM (Build.readNested (max maxDepth 1) []) :=
      Build.mapM_congr_of_alike (fun e e' he => Build.readNested_alike _ _ he) halike
    exact .of_eq (fun _ => rfl) (by rw [hcommands])

/-- Commands on two levels, each level written as a mapping. -/
def mapped : Value := .object [("name", .str "tool"), ("commands", .object [
  ("db", .object [("desc", .str "Databases"), ("subcommands", .object [
    ("serve", .object [("desc", .str "Serve"), ("lifecycle", .str "managed")]),
    ("dry-run", .object [("desc", .str "Try")])])]),
  ("log", .object [("desc", .str "Logs")])])]

/-- The same commands, each level written as a list. -/
def listed : Value := .object [("name", .str "tool"), ("commands", .list [
  .object [("desc", .str "Databases"), ("subcommands", .list [
    .object [("desc", .str "Serve"), ("lifecycle", .str "managed"), ("name", .str "serve")],
    .object [("desc", .str "Try"), ("name", .str "dry-run")]]), ("name", .str "db")],
  .object [("desc", .str "Logs"), ("name", .str "log")]])]

/-- The two descriptions of the example are forms of one another. -/
theorem relisted_mapped : Relisted mapped listed := by
  have hbelow : RelistedField ("subcommands", _) ("subcommands", _) :=
    .commands (.inr rfl) (.relist (.cons (.item "serve" (.same (.object [("desc", .str "Serve"),
      ("lifecycle", .str "managed")]))) (.cons (.item "dry-run"
        (.same (.object [("desc", .str "Try")]))) .nil)))
  have hdb : Relisted (.object [("desc", .str "Databases"), _]) _ :=
    .mapping (.cons (.same _) (.cons hbelow .nil))
  refine .mapping (.cons (.same _) (.cons (.commands (.inl rfl) (.relist ?_)) .nil))
  exact .cons (.item "db" hdb) (.cons (.item "log" (.same (.object [("desc", .str "Logs")]))) .nil)

/-- The description by mappings and the one by lists make the same tree. -/
theorem CommandTree.build_relisted_mapped : Relisted mapped listed ∧
    ∃ t, build 2 mapped = .ok t ∧ build 2 listed = .ok t ∧
      t.walk.map (·.path) = [["db"], ["db", "serve"], ["db", "dry-run"], ["log"]] := by
  have hbuilt : (build 2 mapped).toOption.any (fun t =>
      t.walk.map (·.path) = [["db"], ["db", "serve"], ["db", "dry-run"], ["log"]]) = true := by
    decide +kernel
  simp only [Option.any_eq_true, toOption_eq_some, decide_eq_true_eq] at hbuilt
  obtain ⟨t, ht, hpaths⟩ := hbuilt
  exact ⟨relisted_mapped, t, ht, (build_relisted relisted_mapped 2).trans ht, hpaths⟩

end CliGen
