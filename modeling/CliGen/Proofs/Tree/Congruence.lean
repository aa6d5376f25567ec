import CliGen.Proofs.Tree.Recursion
import Mathlib.Data.Option.Basic

/-!
# Documents that are read alike

Every reader of a field looks at its own key, and to most of them a null field is an absent one. So
a command is read from two bodies alike if its readers find the same (`Build.readCommand_congr`).

`Build.ReadAlike` says of a relation between entries that related ones are read as the same command
and that those below them are related again. Then related entries are read alike at any depth
(`ReadAlike.readNested_congr`), and so are documents whose entries are related
(`CommandTree.build_congr`).
-/

namespace CliGen

open Outcome

/-! ## Readers of fields -/

section

open CliGen.Field

variable {fields fields' : Fields}

/-- A text depends on the value under its key. -/
theorem Field.text?_congr {key : String} (h : fields.present? key = fields'.present? key)
    (path : List String) : text? fields key path = text? fields' key path := by
  rw [text?, text?, h]

/-- A truth value depends on the value under its key. -/
theorem Field.bool?_congr {key : String} (h : fields.present? key = fields'.present? key)
    (path : List String) : bool? fields key path = bool? fields' key path := by
  rw [bool?, bool?, h]

/-- A list of mappings depends on the value under its key. -/
theorem Field.mappings_congr {key : String} (h : fields.present? key = fields'.present? key)
    (path : List String) : mappings fields key path = mappings fields' key path := by
  rw [mappings, mappings, h]

/-- A description depends on the values under its two keys. -/
theorem Field.description?_congr
    (h : ∀ key ∈ ["desc", "description"], fields.present? key = fields'.present? key)
    (path : List String) : description? fields path = description? fields' path := by
  rw [description?, description?, text?_congr (h "desc" (by simp)),
    text?_congr (h "description" (by simp))]

/-- The fields that are not null are the same, key by key. -/
def Fields.SamePresent (fields fields' : Fields) : Prop :=
  ∀ key, fields.present? key = fields'.present? key

namespace Param

variable (h : fields.SamePresent fields') (path : List String)

include h

/-- What parameters share depends on the values under their keys. -/
theorem read_congr (role name : String) (required : Bool) :
    read fields role name path required = read fields' role name path required := by
  have hchoices (label : String) :
      readChoices fields label path = readChoices fields' label path := by
    rw [readChoices, readChoices, h "choices"]
  have htype (label : String) (choices : Option (List Value)) (default : Option Value) :
      readType fields label path choices default = readType fields' label path choices default := by
    simp only [readType, text?_congr (h "type")]
  simp only [read, hchoices, htype, h "default", description?_congr fun key _ => h key]

/-- An argument depends on the values under the keys of parameters. -/
theorem readArgument_congr (before : List Argument) :
    readArgument path before fields = readArgument path before fields' := by
  rw [readArgument, readArgument, readName, readName, text?_congr (h "name"),
    bool?_congr (h "required")]
  simp only [read_congr h]

/-- So does an option. -/
theorem readOption_congr (before : List NamedOption) :
    readOption path before fields = readOption path before fields' := by
  have hshort (name : String) : readShort fields name path = readShort fields' name path := by
    rw [readShort, readShort, text?_congr (h "short")]
  rw [readOption, readOption, readName, readName, text?_congr (h "name"), text?_congr (h "env"),
    bool?_congr (h "required")]
  simp only [hshort, read_congr h]

omit h

/-- Parameters are read alike from lists of entries that are, by whatever reads one parameter after
those before it. -/
private theorem readEach_congr {α : Type} {readNext : List α → Fields → Outcome α}
    (hnext : ∀ before {entry entry'}, entry.SamePresent entry' →
      readNext before entry = readNext before entry') {key : String}
    (hentries : Agree (List.Forall₂ Fields.SamePresent) (mappings fields key path)
      (mappings fields' key path)) :
    (mappings fields key path >>= fun entries => entries.foldlM
      (fun before entry => return before ++ [← readNext before entry]) []) =
    (mappings fields' key path >>= fun entries => entries.foldlM
      (fun before entry => return before ++ [← readNext before entry]) []) := by
  refine Agree.eq (hentries.bind fun es es' halike => .of_eq (fun _ => rfl) ?_)
  refine foldlM_congr_of_forall₂ (fun before entry entry' hentry => ?_) halike []
  rw [hnext before hentry]

/-- The arguments are read alike where their entries have the same fields. -/
theorem readArguments_congr
    (hentries : Agree (List.Forall₂ Fields.SamePresent) (mappings fields "args" path)
      (mappings fields' "args" path)) : readArguments fields path = readArguments fields' path :=
  readEach_congr path (fun before _ _ h => readArgument_congr h path before) hentries

/-- The options are read alike where their entries have the same fields. -/
theorem readOptions_congr
    (hentries : Agree (List.Forall₂ Fields.SamePresent) (mappings fields "options" path)
      (mappings fields' "options" path)) : readOptions fields path = readOptions fields' path :=
  readEach_congr path (fun before _ _ h => readOption_congr h path before) hentries

end Param

/-- A command is read alike from two bodies whose parts are. -/
theorem Build.readCommand_congr {path : List String} {name : String}
    (hown : ∀ key ∈ ["desc", "description", "lifecycle", "icon", "hidden"],
      fields.present? key = fields'.present? key)
    (harguments : Param.readArguments fields (path ++ [name]) =
      Param.readArguments fields' (path ++ [name]))
    (hoptions : Param.readOptions fields (path ++ [name]) =
      Param.readOptions fields' (path ++ [name]))
    (haliases : Siblings.readAliases fields (path ++ [name]) =
      Siblings.readAliases fields' (path ++ [name])) :
    readCommand path name (.object fields) = readCommand path name (.object fields') := by
  have htext (key : String) (hkey : key ∈ ["desc", "description", "lifecycle", "icon", "hidden"]) :
      text? fields key (path ++ [name]) = text? fields' key (path ++ [name]) :=
    text?_congr (hown key hkey) _
  have hdescription : description? fields (path ++ [name]) =
      description? fields' (path ++ [name]) :=
    description?_congr
      (fun key hkey => hown key (List.mem_append_left ["lifecycle", "icon", "hidden"] hkey)) _
  have hlifecycle : readLifecycle fields (path ++ [name]) =
      readLifecycle fields' (path ++ [name]) := by
    rw [readLifecycle, readLifecycle, htext "lifecycle" (by simp)]
  have hhidden := bool?_congr (hown "hidden" (by simp)) (path ++ [name])
  simp only [readCommand, pure_eq_ok, ok_bind, hdescription, hlifecycle, harguments, hoptions,
    htext "icon" (by simp), haliases, hhidden]

end

/-! ## Related entries -/

namespace Build

open Siblings

/-- Related entries have one name and are read as one command, they take the same among their
siblings, and the entries below them are related again. -/
structure ReadAlike (R : NamedBody → NamedBody → Prop) : Prop where
  name_eq : ∀ {e e'}, R e e' → e.1 = e'.1
  command_eq : ∀ {e e'}, R e e' → ∀ path, readCommand path e.1 e.2 = readCommand path e'.1 e'.2
  take_eq : ∀ {e e'}, R e e' → ∀ parent taken,
    takeEntry parent taken e = takeEntry parent taken e'
  below : ∀ {e e'}, R e e' → ∀ parent, Agree (List.Forall₂ R)
    (entries (e.2.get? "subcommands") "subcommands" parent)
    (entries (e'.2.get? "subcommands") "subcommands" parent)

namespace ReadAlike

variable {R : NamedBody → NamedBody → Prop} (hR : ReadAlike R) {container container' : Option Value}
  {field : String} {parent : List String}

include hR

/-- Related entries of two containers pass both or meet the same problem. -/
theorem collect_agree (h : Agree (List.Forall₂ R) (entries container field parent)
    (entries container' field parent)) :
    Agree (List.Forall₂ R) (collect container field parent) (collect container' field parent) := by
  refine h.bind fun es es' hentries => ?_
  have htaken : es.foldlM (takeEntry parent) Taken.none =
      es'.foldlM (takeEntry parent) Taken.none :=
    foldlM_congr_of_forall₂ (f := takeEntry parent) (g := takeEntry parent)
      (fun taken _ _ he => hR.take_eq he parent taken) hentries _
  rw [htaken]
  refine (Agree.of_eq (fun _ => rfl) rfl : Agree (· = ·) _ _).bind fun _ _ _ => ?_
  exact .ok hentries

/-- Related entries are read as the same command with the same commands below it. -/
theorem readNested_congr (limit : Nat) (path : List String) {e e' : NamedBody} (h : R e e') :
    readNested limit path e = readNested limit path e' := by
  -- The entries below are one level nearer to the ceiling, and related again.
  induction hroom : limit - path.length using Nat.strongRecOn generalizing path e e' with
  | _ room deeper =>
  rw [readNested.eq_def, readNested.eq_def, hR.name_eq h]
  by_cases hdeep : limit ≤ path.length
  · rw [if_pos hdeep, if_pos hdeep]
  · have hcommand := hR.command_eq h path
    rw [hR.name_eq h] at hcommand
    rw [if_neg hdeep, if_neg hdeep, hcommand]
    refine bind_congr fun command => Agree.eq ?_
    refine (hR.collect_agree (hR.below h _)).bind fun below below' hbelow => ?_
    have hempty : below.isEmpty = below'.isEmpty := by cases hbelow <;> rfl
    have hroom' : limit - (path ++ [e'.1]).length < room := by
      simp only [List.length_append, List.length_singleton]
      omega
    have hsubs : below.mapM (readNested limit (path ++ [e'.1])) =
        below'.mapM (readNested limit (path ++ [e'.1])) :=
      mapM_congr_of_forall₂ (fun _ _ hd => deeper _ hroom' _ hd rfl) hbelow
    rw [hempty, hsubs]
    exact .of_eq (fun _ => rfl) rfl

end ReadAlike

end Build

/-- What is said of the command line itself is read alike from two sections whose parts are. -/
theorem Build.readHead_congr {fields fields' : Fields}
    (hown : ∀ key ∈ ["name", "version", "tagline", "description"],
      fields.present? key = fields'.present? key)
    (hoptions : Param.readOptions fields [] = Param.readOptions fields' []) :
    readHead fields = readHead fields' := by
  have htext (key : String) (hkey : key ∈ ["name", "version", "tagline", "description"]) :
      Field.text? fields key [] = Field.text? fields' key [] :=
    Field.text?_congr (hown key hkey) []
  simp only [readHead, htext "name" (by simp), htext "version" (by simp),
    htext "tagline" (by simp), htext "description" (by simp), hoptions]

/-- Two sections say the same of the command line, and the entries at their tops are related. -/
structure Build.SectionsAlike (R : NamedBody → NamedBody → Prop) (fields fields' : Fields) :
    Prop where
  head_eq : readHead fields = readHead fields'
  top : Agree (List.Forall₂ R) (Siblings.entries (fields.get? "commands") "commands" [])
    (Siblings.entries (fields'.get? "commands") "commands" [])

/-- Documents whose sections are alike are read as the same tree, or meet the same problem. -/
theorem CommandTree.build_congr {R : NamedBody → NamedBody → Prop} (hR : Build.ReadAlike R)
    {document document' : Value}
    (h : Option.Rel (Build.SectionsAlike R) (cliSection? document) (cliSection? document'))
    (maxDepth : Nat) : build maxDepth document = build maxDepth document' := by
  rw [build_eq_buildNested, build_eq_buildNested, buildNested, buildNested]
  generalize cliSection? document = found, cliSection? document' = found' at h
  cases h with
  | none => rfl
  | some hsections =>
    dsimp only
    rw [hsections.head_eq]
    refine bind_congr fun head => Agree.eq ?_
    refine (hR.collect_agree hsections.top).bind fun top top' htop => ?_
    have hcommands : top.mapM (Build.readNested (max maxDepth 1) []) =
        top'.mapM (Build.readNested (max maxDepth 1) []) :=
      mapM_congr_of_forall₂ (fun _ _ he => hR.readNested_congr _ _ he) htop
    rw [hcommands]
    exact .of_eq (fun _ => rfl) rfl

end CliGen
