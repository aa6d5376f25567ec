import CliGen.Proofs.Tree.Reading

/-!
# Problems of a description

Whatever is wrong with a description ends the run of every target: each reader refuses with a
problem of the description's schema, and the checks on siblings and on the depth with problems of
the tree. No reader ever meets an internal problem.
-/

namespace CliGen

open Outcome

/-- The only problems that a step meets are fatal. -/
def MeetsFatal {α : Type} (x : Outcome α) : Prop := Meets (·.isFatal = true) x

section

variable {α β : Type} {path : List String} {reason : String}

/-- A refused field is a problem of the description, which ends the run of every target. -/
theorem meetsFatal_refuse : MeetsFatal (Field.refuse path reason : Outcome α) := meets_error rfl

/-- A check refuses a description or lets the reading go on. -/
theorem meetsFatal_check {c : Prop} [Decidable c] {f : β → Outcome α} {next : Outcome α}
    (h : MeetsFatal next) : MeetsFatal (if c then Field.refuse path reason >>= f else next) := by
  split
  · exact meets_error rfl
  · exact h

/-- A demand lets the reading go on or refuses a description. -/
theorem meetsFatal_demand {c : Prop} [Decidable c] {f : β → Outcome α} {next : Outcome α}
    (h : MeetsFatal next) : MeetsFatal (if c then next else Field.refuse path reason >>= f) := by
  split
  · exact h
  · exact meets_error rfl

end

/-! ## Fields -/

namespace Field

variable {fields : Fields} {key : String} {path : List String}

/-- A field that should hold a text is refused at the command it belongs to. -/
theorem meetsFatal_text? : MeetsFatal (text? fields key path) := by
  unfold text?
  split
  · exact meets_ok _
  · exact meets_ok _
  · exact meetsFatal_refuse

/-- A field that should hold a truth value is refused at the command it belongs to. -/
theorem meetsFatal_bool? : MeetsFatal (bool? fields key path) := by
  unfold bool?
  split
  · exact meets_ok _
  · exact meets_ok _
  · exact meetsFatal_refuse

/-- A field that should list mappings is refused at the command it belongs to. -/
theorem meetsFatal_mappings : MeetsFatal (mappings fields key path) := by
  unfold mappings
  split
  · exact meets_ok _
  · refine meets_mapM fun item _ => ?_
    split
    · exact meets_ok _
    · exact meetsFatal_refuse
  · exact meetsFatal_refuse

/-- A field with a description is refused at the command it belongs to. -/
theorem meetsFatal_description? : MeetsFatal (description? fields path) := by
  unfold description?
  refine meets_bind meetsFatal_text? fun text _ => ?_
  split
  · exact meets_pure _
  · exact meetsFatal_text?

end Field

open CliGen.Field

/-! ## Parameters -/

namespace Param

variable {fields : Fields} {label role name : String} {path : List String}

/-- Choices are refused at the command they belong to. -/
theorem meetsFatal_readChoices : MeetsFatal (readChoices fields label path) := by
  unfold readChoices
  split
  · exact meets_ok _
  · exact meetsFatal_refuse
  · split
    · exact meetsFatal_refuse
    · exact meets_ok _
  · exact meetsFatal_refuse

/-- A type is refused at the command it belongs to. -/
theorem meetsFatal_readType {choices : Option (List Value)} {default : Option Value} :
    MeetsFatal (readType fields label path choices default) := by
  unfold readType
  refine meets_bind meetsFatal_text? fun word _ => ?_
  split
  · split
    · exact meets_pure _
    · exact meetsFatal_refuse
  · split
    · exact meets_pure _
    · split <;> exact meets_pure _

/-- A default is refused at the command it belongs to. -/
theorem meetsFatal_checkDefault {type : ParamType} {choices : Option (List Value)}
    {default : Option Value} : MeetsFatal (checkDefault label path type choices default) := by
  cases default with
  | none => exact meets_ok _
  | some v =>
    refine meetsFatal_demand ?_
    split
    · split
      · exact meets_pure _
      · exact meetsFatal_refuse
    · exact meets_pure _

/-- The fields that arguments and options share are refused at their command. -/
theorem meetsFatal_read {required : Bool} :
    MeetsFatal (read fields role name path required) := by
  refine meets_bind meetsFatal_readChoices fun choices _ => ?_
  refine meets_bind meetsFatal_readType fun type _ => ?_
  refine meetsFatal_check (meetsFatal_check ?_)
  refine meets_bind meetsFatal_checkDefault fun _ _ => ?_
  exact meets_bind meetsFatal_description? fun _ _ => meets_pure _

/-- The name of a parameter is refused at its command. -/
theorem meetsFatal_readName : MeetsFatal (readName fields role path) := by
  refine meets_bind meetsFatal_text? fun raw _ => ?_
  cases raw with
  | none => exact meetsFatal_refuse
  | some raw => exact meetsFatal_demand (meets_pure _)

/-- An argument is refused at its command. -/
theorem meetsFatal_readArgument {before : List Argument} :
    MeetsFatal (readArgument path before fields) := by
  refine meets_bind meetsFatal_readName fun name _ => meetsFatal_check ?_
  refine meets_bind meetsFatal_read fun argument _ => ?_
  refine meets_bind meetsFatal_bool? fun required _ => ?_
  split
  · refine meetsFatal_check (meets_bind (meets_pure _) fun required _ => ?_)
    exact meetsFatal_check (meets_pure _)
  · exact meets_bind (meets_pure _) fun required _ => meetsFatal_check (meets_pure _)
  · exact meets_bind (meets_pure _) fun required _ => meetsFatal_check (meets_pure _)

/-- Arguments are refused at their command. -/
theorem meetsFatal_readArguments : MeetsFatal (readArguments fields path) :=
  meets_bind meetsFatal_mappings fun entries _ =>
    meets_foldlM (fun _ _ => meets_bind meetsFatal_readArgument fun _ _ => meets_pure _) entries []

/-- A short name is refused at the command of its option. -/
theorem meetsFatal_readShort : MeetsFatal (readShort fields name path) := by
  refine meets_bind meetsFatal_text? fun raw _ => ?_
  split
  · exact meets_pure _
  · split
    · split
      · exact meets_pure _
      · exact meetsFatal_refuse
    · exact meetsFatal_refuse

/-- An option is refused at its command. -/
theorem meetsFatal_readOption {before : List NamedOption} :
    MeetsFatal (readOption path before fields) := by
  refine meets_bind meetsFatal_readName fun name _ => ?_
  refine meetsFatal_check (meetsFatal_check ?_)
  refine meets_bind meetsFatal_readShort fun short _ => ?_
  have hrest : MeetsFatal (do
      let env ← text? fields "env" path
      let required ← bool? fields "required" path
      let param ← read fields "option" name path (required.getD false)
      return { param with short, env : NamedOption }) := by
    refine meets_bind meetsFatal_text? fun env _ => ?_
    refine meets_bind meetsFatal_bool? fun required _ => ?_
    exact meets_bind meetsFatal_read fun param _ => meets_pure _
  split
  · exact meetsFatal_check (meetsFatal_check hrest)
  · exact hrest

/-- Options are refused at their command. -/
theorem meetsFatal_readOptions : MeetsFatal (readOptions fields path) :=
  meets_bind meetsFatal_mappings fun entries _ =>
    meets_foldlM (fun _ _ => meets_bind meetsFatal_readOption fun _ _ => meets_pure _) entries []

end Param

/-! ## Siblings -/

namespace Siblings

variable {fields : Fields} {field : String} {path parent : List String} {container : Option Value}

/-- Aliases are refused at the command they belong to. -/
theorem meetsFatal_readAliases : MeetsFatal (readAliases fields path) := by
  refine meets_foldlM (fun kept value => ?_) _ _
  split
  · split
    · exact meetsFatal_refuse
    · split <;> exact meets_ok _
  · exact meetsFatal_refuse

/-- The entries of a container are refused at the command that holds it. -/
theorem meetsFatal_entries : MeetsFatal (entries container field parent) := by
  unfold entries
  split
  · exact meets_ok _
  · exact meets_ok _
  · exact meets_ok _
  · refine meets_mapM fun item _ => ?_
    split
    · exact meets_ok _
    · exact meetsFatal_refuse
  · exact meetsFatal_refuse

/-- A name that is taken already makes a duplicate command, which ends the run of every target. -/
theorem meetsFatal_takeName {taken : Taken} {name : String} :
    MeetsFatal (taken.takeName path name) := by
  unfold Taken.takeName
  split
  · exact meets_error rfl
  · exact meets_ok _

/-- So does an identifier that is taken already. -/
theorem meetsFatal_takeIdentifier {taken : Taken} {name : String} :
    MeetsFatal (taken.takeIdentifier path name) := by
  unfold Taken.takeIdentifier
  split
  · exact meets_error rfl
  · exact meets_ok _

/-- An entry fails by a problem that ends the run of every target. -/
theorem meetsFatal_takeEntry {taken : Taken} {entry : NamedBody} :
    MeetsFatal (takeEntry parent taken entry) := by
  refine meetsFatal_demand ?_
  refine meets_bind meetsFatal_takeName fun named _ => ?_
  refine meets_bind meetsFatal_takeIdentifier fun identified _ => ?_
  split
  · refine meets_bind meetsFatal_readAliases fun aliases _ => ?_
    exact meets_foldlM (fun _ _ => meetsFatal_takeName) _ _
  · exact meets_pure _

/-- Collecting siblings fails by such a problem. -/
theorem meetsFatal_collect : MeetsFatal (collect container field parent) := by
  refine meets_bind meetsFatal_entries fun found _ => ?_
  exact meets_bind (meets_foldlM (fun _ _ => meetsFatal_takeEntry) _ _) fun _ _ => meets_pure _

end Siblings

/-! ## Commands -/

namespace Build

variable {fields : Fields} {path : List String}

/-- A lifecycle is refused at its command. -/
theorem meetsFatal_readLifecycle : MeetsFatal (readLifecycle fields path) := by
  refine meets_bind meetsFatal_text? fun word _ => ?_
  split
  · exact meets_pure _
  · split
    · exact meets_pure _
    · exact meetsFatal_refuse

/-- A text that is missing is refused at its command. -/
theorem meetsFatal_required {text : Option String} {key : String} :
    MeetsFatal (required text key path) := by
  unfold required
  split
  · exact meetsFatal_refuse
  · exact meetsFatal_refuse
  · exact meets_ok _

/-- A command is refused at its own path. -/
theorem meetsFatal_readCommand {name : String} {body : Value} :
    MeetsFatal (readCommand path name body) := by
  cases body
  case object fields =>
    refine meets_bind (meets_pure _) fun fields _ => ?_
    refine meets_bind meetsFatal_description? fun text _ => ?_
    refine meets_bind meetsFatal_required fun description _ => ?_
    refine meets_bind meetsFatal_readLifecycle fun lifecycle _ => ?_
    refine meets_bind Param.meetsFatal_readArguments fun arguments _ => ?_
    refine meets_bind Param.meetsFatal_readOptions fun options _ => ?_
    split
    · exact meetsFatal_refuse
    · refine meets_bind meetsFatal_text? fun icon _ => ?_
      refine meets_bind Siblings.meetsFatal_readAliases fun aliases _ => ?_
      exact meets_bind meetsFatal_bool? fun hidden _ => meets_pure _
  all_goals exact meetsFatal_refuse

/-- What stands above the commands is refused at the root. -/
theorem meetsFatal_readHead : MeetsFatal (readHead fields) := by
  refine meets_bind meetsFatal_text? fun text _ => ?_
  refine meets_bind meetsFatal_required fun cliName _ => meetsFatal_demand ?_
  refine meets_bind meetsFatal_text? fun version _ => ?_
  refine meets_bind meetsFatal_text? fun tagline _ => ?_
  refine meets_bind meetsFatal_text? fun description _ => ?_
  exact meets_bind Param.meetsFatal_readOptions fun globalOptions _ => meets_pure _

/-- A command that waits to be read fails by a problem that ends the run of every target. -/
theorem Waiting.meetsFatal_read {limit : Nat} {w : Waiting} : MeetsFatal (w.read limit) := by
  unfold Waiting.read
  split
  · exact meets_error rfl
  · refine meets_bind meetsFatal_readCommand fun command _ => ?_
    refine meets_bind Siblings.meetsFatal_collect fun below _ => ?_
    exact meetsFatal_check (meets_pure _)

end Build

end CliGen
