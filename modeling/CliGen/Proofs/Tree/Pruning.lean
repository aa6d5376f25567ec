import CliGen.Proofs.Tree.Congruence

/-!
# Null fields are left out

A document is pruned by leaving out fields that are null: of its section, of the bodies of commands
and of their parameters, at any depth and any number of them (`PrunedDocument`). `build_pruned` says
that the pruned document is read alike, whatever the ceiling.

One field is bound to a condition. A null `aliases` still hides what `alias` says, so it may go only
if there is no `alias`; `build_hidden_alias` shows a document where this matters.

## Shape of the proof

* `Fields.Pruned.get?_cases`: what is found at a key of pruned fields. Fields whose values do not
  change are found again unless they are null (`Fields.Pruned.present?_eq`).
* `mappings_pruned`, `readAliases_pruned`, `entries_pruned`: so each reader of a body finds the
  same, or entries that are pruned again.
* `readAlike_pruned` puts these together for `CommandTree.build_congr`.
-/

namespace CliGen

open Outcome

/-- Some fields that are null are left out; the other values are related key by key. -/
inductive Fields.Pruned (R : String → Value → Value → Prop) : Fields → Fields → Prop where
  | nil : Pruned R [] []
  | keep {key : String} {v v' : Value} {fields fields' : Fields} (hvalue : R key v v')
      (rest : Pruned R fields fields') : Pruned R ((key, v) :: fields) ((key, v') :: fields')
  | drop {key : String} {fields fields' : Fields} (honce : key ∉ fields.map (·.1))
      (rest : Pruned R fields fields') : Pruned R ((key, .null) :: fields) fields'

/-- An argument or an option that loses null fields. -/
inductive PrunedParameter : Value → Value → Prop where
  | same (v : Value) : PrunedParameter v v
  | mapping {fields fields' : Fields} (each : Fields.Pruned (fun _ => Eq) fields fields') :
      PrunedParameter (.object fields) (.object fields')

/-- No alias comes to light: there is no `alias`, or what is found at `aliases` stays. -/
def KeepsAliases (fields fields' : Fields) : Prop :=
  fields.present? "alias" = none ∨ fields.get? "aliases" = fields'.get? "aliases"

mutual

/-- A field stays as it is, or null fields are left out in its parameters or commands. -/
inductive PrunedField : String → Value → Value → Prop where
  | same (key : String) (v : Value) : PrunedField key v v
  | parameters {key : String} {items items' : List Value} (hkey : key = "args" ∨ key = "options")
      (each : List.Forall₂ PrunedParameter items items') :
      PrunedField key (.list items) (.list items')
  | mapping {key : String} {entries entries' : Fields}
      (hkey : key = "commands" ∨ key = "subcommands")
      (each : List.Forall₂ PrunedEntry entries entries') :
      PrunedField key (.object entries) (.object entries')
  | list {key : String} {items items' : List Value} (hkey : key = "commands" ∨ key = "subcommands")
      (each : List.Forall₂ PrunedBody items items') : PrunedField key (.list items) (.list items')

/-- An entry keeps its name. -/
inductive PrunedEntry : String × Value → String × Value → Prop where
  | entry (name : String) {v v' : Value} (inside : PrunedBody v v') :
      PrunedEntry (name, v) (name, v')

/-- The body of a command loses null fields, and no alias comes to light. -/
inductive PrunedBody : Value → Value → Prop where
  | same (v : Value) : PrunedBody v v
  | mapping {fields fields' : Fields} (each : Fields.Pruned PrunedField fields fields')
      (haliases : KeepsAliases fields fields') : PrunedBody (.object fields) (.object fields')

end

/-- The section of a document loses null fields. It stands at `cli`, or it is the document. -/
inductive PrunedDocument : Value → Value → Prop where
  | bare {fields fields' : Fields} (hbare : ∀ inner, fields.get? "cli" ≠ some (.object inner))
      (each : Fields.Pruned PrunedField fields fields') :
      PrunedDocument (.object fields) (.object fields')
  | wrapped {fields inner inner' : Fields} (hcli : fields.get? "cli" = some (.object inner))
      (each : Fields.Pruned PrunedField inner inner') :
      PrunedDocument (.object fields) (.object (fields.put "cli" (.object inner')))

/-! ## What is found at a key -/

namespace Fields

/-- A key that no field has is not found. -/
theorem get?_eq_none {fields : Fields} {key : String} (h : key ∉ fields.map (·.1)) :
    fields.get? key = none := by
  induction fields with
  | nil => rfl
  | cons field rest ih =>
    rw [List.map_cons, List.mem_cons, not_or] at h
    rw [get?, if_neg (Ne.symm h.1)]
    exact ih h.2

/-- A field is absent if it is not there or null. -/
theorem present?_eq_none {fields : Fields} {key : String} :
    fields.present? key = none ↔ fields.get? key = none ∨ fields.get? key = some .null := by
  rw [present?]
  cases fields.get? key with
  | none => simp
  | some v => cases v <;> simp

namespace Pruned

variable {R : String → Value → Value → Prop} {fields fields' : Fields}

/-- A key whose value is null may be gone; otherwise related values are found at it, or none. -/
theorem get?_cases (h : Pruned R fields fields') (key : String) :
    (fields.get? key = some .null ∧ fields'.get? key = none) ∨
      Option.Rel (R key) (fields.get? key) (fields'.get? key) := by
  induction h with
  | nil => exact .inr .none
  | @keep k v v' rest rest' hvalue _ ih =>
    rw [get?, get?]
    by_cases hk : k = key
    · subst hk
      rw [if_pos rfl, if_pos rfl]
      exact .inr (.some hvalue)
    · rw [if_neg hk, if_neg hk]
      exact ih
  | @drop k rest rest' honce _ ih =>
    rw [get?]
    by_cases hk : k = key
    · subst hk
      rw [if_pos rfl]
      rw [get?_eq_none honce] at ih
      -- The key does not come again, so nothing is found at it any more.
      rcases ih with ⟨hnull, -⟩ | hrest
      · cases hnull
      · generalize rest'.get? k = found at hrest
        cases hrest
        exact .inl ⟨rfl, rfl⟩
    · rw [if_neg hk]
      exact ih

/-- A key whose value does not change is found again, or it was null. -/
theorem get?_cases_of_eq (h : Pruned R fields fields') {key : String}
    (hplain : ∀ v v', R key v v' → v = v') :
    (fields.get? key = some .null ∧ fields'.get? key = none) ∨
      fields.get? key = fields'.get? key := by
  refine (h.get?_cases key).imp_right fun hfound => ?_
  generalize fields.get? key = found, fields'.get? key = found' at hfound
  cases hfound with
  | none => rfl
  | some hvalue => rw [hplain _ _ hvalue]

/-- Where null is all that may be left out, a field is present in both or in neither. -/
theorem present?_eq (h : Pruned R fields fields') {key : String}
    (hplain : ∀ v v', R key v v' → v = v') : fields.present? key = fields'.present? key := by
  rw [present?, present?]
  rcases h.get?_cases_of_eq hplain with ⟨hnull, hgone⟩ | hsame
  · rw [hnull, hgone]
  · rw [hsame]

end Pruned

end Fields

/-- The fields that hold neither parameters nor commands. -/
def IsPlainKey (key : String) : Prop :=
  key ≠ "args" ∧ key ≠ "options" ∧ key ≠ "commands" ∧ key ≠ "subcommands"

instance (key : String) : Decidable (IsPlainKey key) := inferInstanceAs (Decidable (_ ∧ _))

/-- The values of plain keys stay as they are. -/
theorem PrunedField.eq_of_isPlainKey {key : String} (hkey : IsPlainKey key) (v v' : Value)
    (h : PrunedField key v v') : v = v' := by
  obtain ⟨hargs, hoptions, hcommands, hsubcommands⟩ := hkey
  cases h with
  | same => rfl
  | parameters hparameters => exact absurd hparameters (not_or.2 ⟨hargs, hoptions⟩)
  | mapping hcontainer => exact absurd hcontainer (not_or.2 ⟨hcommands, hsubcommands⟩)
  | list hcontainer => exact absurd hcontainer (not_or.2 ⟨hcommands, hsubcommands⟩)

/-! ## Readers of a pruned body -/

section

variable {fields fields' : Fields} (h : fields.Pruned PrunedField fields') (path : List String)

include h

/-- A plain key is found again, or it was null. -/
theorem Fields.Pruned.get?_plain {key : String} (hkey : IsPlainKey key) :
    (fields.get? key = some .null ∧ fields'.get? key = none) ∨
      fields.get? key = fields'.get? key :=
  h.get?_cases_of_eq (PrunedField.eq_of_isPlainKey hkey)

/-- A plain key is present in both, with the same value, or in neither. -/
theorem Fields.Pruned.present?_plain {key : String} (hkey : IsPlainKey key) :
    fields.present? key = fields'.present? key :=
  h.present?_eq (PrunedField.eq_of_isPlainKey hkey)

/-- Parameters are found again, each with the same fields that are not null. -/
theorem Field.mappings_pruned {key : String} (hkey : key = "args" ∨ key = "options") :
    Agree (List.Forall₂ Fields.SamePresent) (mappings fields key path)
      (mappings fields' key path) := by
  have hsame (es : List Fields) : List.Forall₂ Fields.SamePresent es es :=
    List.forall₂_same.2 fun _ _ _ => rfl
  rw [mappings, mappings, Fields.present?, Fields.present?]
  rcases h.get?_cases key with ⟨hnull, hgone⟩ | hfound
  · rw [hnull, hgone]
    exact .ok .nil
  generalize fields.get? key = found, fields'.get? key = found' at hfound
  cases hfound with
  | none => exact .ok .nil
  | some hvalue =>
    cases hvalue with
    | same => exact .of_eq hsame rfl
    | parameters _ each =>
      refine Agree.mapM (fun item item' hitem => ?_) each
      cases hitem with
      | same => exact .of_eq (fun _ _ => rfl) rfl
      | mapping inside => exact .ok fun key => inside.present?_eq fun _ _ => id
    | mapping hcontainer | list hcontainer => rcases hkey with rfl | rfl <;> simp at hcontainer

/-- Aliases stay, if no null hides them. -/
theorem Siblings.readAliases_pruned (haliases : KeepsAliases fields fields') :
    readAliases fields path = readAliases fields' path := by
  have hkeys : IsPlainKey "aliases" ∧ IsPlainKey "alias" := by decide
  rcases h.get?_plain hkeys.1 with ⟨hnull, hgone⟩ | hplural
  · -- A null `aliases` is gone, so what is read is `alias`, and the condition says there is none.
    have habsent : fields.present? "alias" = none := by
      refine haliases.resolve_right fun hsame => ?_
      rw [hnull, hgone] at hsame
      cases hsame
    rw [h.present?_plain hkeys.2, Fields.present?_eq_none] at habsent
    rw [readAliases, readAliases, hnull, hgone]
    rcases habsent with halias | halias <;> rw [halias] <;> rfl
  · rw [readAliases, readAliases, hplural]
    rcases h.get?_plain hkeys.2 with ⟨hnull, hgone⟩ | halias
    · rw [hnull, hgone]
      cases fields'.get? "aliases" <;> rfl
    · rw [halias]

/-- A command stays, if no null hides its aliases. -/
theorem Build.readCommand_pruned (parentPath : List String) (name : String)
    (haliases : KeepsAliases fields fields') :
    readCommand parentPath name (.object fields) =
      readCommand parentPath name (.object fields') := by
  have hown : ∀ key ∈ ["desc", "description", "lifecycle", "icon", "hidden"], IsPlainKey key := by
    decide
  refine readCommand_congr (fun key hkey => h.present?_plain (hown key hkey)) ?_ ?_ ?_
  · exact Param.readArguments_congr _ (Field.mappings_pruned h _ (.inl rfl))
  · exact Param.readOptions_congr _ (Field.mappings_pruned h _ (.inr rfl))
  · exact Siblings.readAliases_pruned h _ haliases

end

/-! ## Containers of pruned bodies -/

namespace Siblings

variable {parent : List String}

/-- Entries are left as they are where nothing is left out. -/
theorem forall₂_prunedEntry (es : List NamedBody) : List.Forall₂ PrunedEntry es es :=
  List.forall₂_same.2 fun e _ => .entry e.1 (.same e.2)

/-- A body keeps the text of its name. -/
theorem name_pruned {v v' : Value} (h : PrunedBody v v') :
    (v.get? "name").bind Value.str? = (v'.get? "name").bind Value.str? := by
  cases h with
  | same => rfl
  | @mapping fields fields' each =>
    have hkey : IsPlainKey "name" := by decide
    rw [Value.get?, Value.get?]
    rcases each.get?_plain hkey with ⟨hnull, hgone⟩ | hsame
    · rw [hnull, hgone]
      rfl
    · rw [hsame]

/-- The commands of pruned fields are entries that are pruned one by one. -/
theorem entries_pruned {fields fields' : Fields} (h : fields.Pruned PrunedField fields')
    {key : String} (hkey : key = "commands" ∨ key = "subcommands") :
    Agree (List.Forall₂ PrunedEntry) (entries (fields.get? key) key parent)
      (entries (fields'.get? key) key parent) := by
  rcases h.get?_cases key with ⟨hnull, hgone⟩ | hfound
  · rw [hnull, hgone]
    exact .ok .nil
  generalize fields.get? key = found, fields'.get? key = found' at hfound
  cases hfound with
  | none => exact .ok .nil
  | some hvalue =>
    cases hvalue with
    | same => exact .of_eq forall₂_prunedEntry rfl
    | parameters hparameters => rcases hkey with rfl | rfl <;> simp at hparameters
    | mapping _ each => exact .ok each
    | list _ each =>
      refine Agree.mapM (fun item item' hitem => ?_) each
      rw [name_pruned hitem]
      split
      · exact .ok (.entry _ hitem)
      · exact .error _

end Siblings

/-! ## The same tree, or the same problem -/

namespace Build

/-- Pruned entries are read as the same command, and the commands below it are pruned again. -/
theorem readAlike_pruned : ReadAlike PrunedEntry where
  name_eq := by
    rintro _ _ ⟨name, -⟩
    rfl
  command_eq := by
    rintro _ _ ⟨name, hbody⟩ path
    cases hbody with
    | same => rfl
    | mapping each haliases => exact readCommand_pruned each path name haliases
  take_eq := by
    rintro _ _ ⟨name, hbody⟩ parent taken
    cases hbody with
    | same => rfl
    | mapping each haliases =>
      simp only [Siblings.takeEntry, Siblings.readAliases_pruned each _ haliases]
  below := by
    rintro _ _ ⟨name, hbody⟩ parent
    cases hbody with
    | same => exact .of_eq Siblings.forall₂_prunedEntry rfl
    | mapping each => exact Siblings.entries_pruned each (.inr rfl)

/-- Sections of which nulls are left out are read alike. -/
theorem sectionsAlike_pruned {fields fields' : Fields} (h : fields.Pruned PrunedField fields') :
    SectionsAlike PrunedEntry fields fields' where
  head_eq := by
    have hown : ∀ key ∈ ["name", "version", "tagline", "description"], IsPlainKey key := by decide
    refine readHead_congr (fun key hkey => h.present?_plain (hown key hkey)) ?_
    exact Param.readOptions_congr _ (Field.mappings_pruned h _ (.inr rfl))
  top := Siblings.entries_pruned h (.inl rfl)

end Build

/-- Without a section for the command line the document is this section. -/
theorem cliSection?_of_bare {fields : Fields}
    (h : ∀ inner, fields.get? "cli" ≠ some (.object inner)) :
    cliSection? (.object fields) = some fields := by
  rw [cliSection?, Value.get?]
  split
  next inner hcli => exact absurd hcli (h inner)
  next => rfl

/-- A section for the command line is found under its key. -/
theorem cliSection?_of_wrapped {fields inner : Fields}
    (h : fields.get? "cli" = some (.object inner)) :
    cliSection? (.object fields) = some inner := by
  rw [cliSection?, Value.get?, h]

/-- Leaving nulls out of a document leaves them out of its section. -/
theorem cliSection?_pruned {document document' : Value} (h : PrunedDocument document document') :
    Option.Rel (Fields.Pruned PrunedField) (cliSection? document) (cliSection? document') := by
  cases h with
  | @bare fields fields' hbare each =>
    have hbare' : ∀ inner, fields'.get? "cli" ≠ some (.object inner) := by
      intro inner hinner
      have hkey : IsPlainKey "cli" := by decide
      rcases each.get?_plain hkey with ⟨-, hgone⟩ | hsame
      · rw [hgone] at hinner
        cases hinner
      · exact hbare inner (hsame.trans hinner)
    rw [cliSection?_of_bare hbare, cliSection?_of_bare hbare']
    exact .some each
  | @wrapped fields inner inner' hcli each =>
    have hcli' : (fields.put "cli" (.object inner')).get? "cli" = some (.object inner') := by
      rw [Fields.get?_put, if_pos rfl]
    rw [cliSection?_of_wrapped hcli, cliSection?_of_wrapped hcli']
    exact .some each

/-- **A null field is an absent field.** Null fields may be left out of the section of a document,
of the bodies of its commands and of their parameters, at any depth: the document is read as the
same tree or meets the same problem, whatever the ceiling. -/
theorem CommandTree.build_pruned {document document' : Value}
    (h : PrunedDocument document document') (maxDepth : Nat) :
    build maxDepth document' = build maxDepth document := by
  have hsections : Option.Rel (Build.SectionsAlike PrunedEntry) (cliSection? document)
      (cliSection? document') := by
    have hpruned := cliSection?_pruned h
    generalize cliSection? document = found, cliSection? document' = found' at hpruned
    cases hpruned with
    | none => exact .none
    | some each => exact .some (Build.sectionsAlike_pruned each)
  exact (build_congr Build.readAlike_pruned hsections maxDepth).symm

/-- A description with null fields in its section, in bodies on two levels and in parameters. -/
def sparse : Value := .object [("name", .str "tool"), ("tagline", .null),
  ("options", .list [.object [("name", .str "port"), ("default", .null), ("env", .str "PORT")]]),
  ("commands", .object [
    ("db", .object [("desc", .null), ("description", .str "Databases"), ("aliases", .null),
      ("subcommands", .list [
        .object [("name", .str "serve"), ("icon", .null), ("desc", .str "Serve"),
          ("args", .list [.object [("name", .str "mode"), ("choices", .null)]])]])])])]

/-- The same description without its null fields. -/
def dense : Value := .object [("name", .str "tool"),
  ("options", .list [.object [("name", .str "port"), ("env", .str "PORT")]]),
  ("commands", .object [
    ("db", .object [("description", .str "Databases"),
      ("subcommands", .list [
        .object [("name", .str "serve"), ("desc", .str "Serve"),
          ("args", .list [.object [("name", .str "mode")]])]])])])]

/-- The two descriptions of the example differ in nulls that are left out. -/
theorem pruned_sparse : PrunedDocument sparse dense := by
  have hport : PrunedParameter
      (.object [("name", .str "port"), ("default", .null), ("env", .str "PORT")])
      (.object [("name", .str "port"), ("env", .str "PORT")]) :=
    .mapping (.keep rfl (.drop (by decide) (.keep rfl .nil)))
  have hmode : PrunedParameter (.object [("name", .str "mode"), ("choices", .null)]) _ :=
    .mapping (.keep rfl (.drop (by decide) .nil))
  have hserve : PrunedBody (.object [("name", .str "serve"), ("icon", .null), _, _]) _ :=
    .mapping (.keep (.same _ _) (.drop (by decide) (.keep (.same "desc" (.str "Serve"))
      (.keep (.parameters (.inl rfl) (.cons hmode .nil)) .nil)))) (.inl rfl)
  have hdb : PrunedBody (.object [("desc", .null), _, ("aliases", .null), _]) _ :=
    .mapping (.drop (by decide) (.keep (.same "description" (.str "Databases"))
      (.drop (by decide) (.keep (.list (.inr rfl) (.cons hserve .nil)) .nil)))) (.inl rfl)
  refine .bare (by simp [Fields.get?]) (.keep (.same _ _) (.drop (by decide) (.keep ?_ ?_)))
  · exact .parameters (.inr rfl) (.cons hport .nil)
  · exact .keep (.mapping (.inl rfl) (.cons (.entry "db" hdb) .nil)) .nil

/-- With its nulls and without them the description makes the same tree. -/
theorem CommandTree.build_pruned_sparse : PrunedDocument sparse dense ∧
    ∃ t, build 2 sparse = .ok t ∧ build 2 dense = .ok t ∧
      t.walk.map (·.path) = [["db"], ["db", "serve"]] := by
  have hbuilt : (build 2 sparse).toOption.any (fun t =>
      t.walk.map (·.path) = [["db"], ["db", "serve"]]) = true := by decide +kernel
  simp only [Option.any_eq_true, toOption_eq_some, decide_eq_true_eq] at hbuilt
  obtain ⟨t, ht, hpaths⟩ := hbuilt
  exact ⟨pruned_sparse, t, ht, (build_pruned pruned_sparse 2).trans ht, hpaths⟩

/-- A command with an alias, and with some fields in front. -/
def aliased (more : Fields) : Value :=
  .object [("name", .str "x"), ("commands", .object [
    ("remove", .object (("desc", .str "r") :: more ++ [("alias", .str "rm")]))])]

/-- A null `aliases` hides the alias, so the condition on it cannot be left out. -/
theorem CommandTree.build_hidden_alias : ∃ t t', build 16 (aliased [("aliases", .null)]) = .ok t ∧
    build 16 (aliased []) = .ok t' ∧ t.commands.map (·.aliases) = [[]] ∧
      t'.commands.map (·.aliases) = [["rm"]] := by
  have hhidden : (build 16 (aliased [("aliases", .null)])).toOption.any
      (·.commands.map (·.aliases) = [[]]) = true := by decide +kernel
  have hshown : (build 16 (aliased [])).toOption.any
      (·.commands.map (·.aliases) = [["rm"]]) = true := by decide +kernel
  simp only [Option.any_eq_true, toOption_eq_some, decide_eq_true_eq] at hhidden hshown
  obtain ⟨t, ht, haliases⟩ := hhidden
  obtain ⟨t', ht', haliases'⟩ := hshown
  exact ⟨t, t', ht, ht', haliases, haliases'⟩

end CliGen
