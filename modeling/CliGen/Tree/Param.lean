import CliGen.Naming
import CliGen.Tree.Basic
import CliGen.Tree.Field
import CliGen.Value.Compact

/-!
# Parameters in a description

Reading the arguments and options of a command. The identifiers of a list are pairwise different,
required arguments come first, and a default is a value of the declared type and one of the choices.
-/

namespace CliGen.Param

open CliGen.Field

/-- Whether a scalar is one of some scalars. -/
def isAmong (v : Value) (vs : List Value) : Bool := vs.any (v.scalarEq ·)

/-- The choices in order, each once. -/
def distinct (vs : List Value) : List Value :=
  vs.foldl (fun kept v => if isAmong v kept then kept else kept ++ [v]) []

/-- Whether a value can be the default of a parameter of a type. -/
def fits : ParamType → Value → Bool
  | .integer, .int _ => true
  | .float, .int _ | .float, .float _ => true
  | .boolean, .bool _ => true
  | .string, .str _ | .path, .str _ => true
  | .choice, .list _ | .choice, .object _ => false
  | .choice, _ => true
  | _, _ => false

/-- The choices of a parameter. -/
def readChoices (fields : Fields) (label : String) (path : List String) :
    Outcome (Option (List Value)) :=
  match fields.present? "choices" with
  | none => .ok none
  | some (.list []) => refuse path s!"{label} has empty 'choices'"
  | some (.list items) =>
    match items.find? (!·.isScalar) with
    | some v => refuse path s!"{label} has a non-scalar choice ({v.kind})"
    | none => .ok (some (distinct items))
  | some v => refuse path s!"{label}: 'choices' must be a list, found {v.kind}"

/-- The type of a parameter: as declared, or else what its choices or its default tell. -/
def readType (fields : Fields) (label : String) (path : List String) (choices : Option (List Value))
    (default : Option Value) : Outcome ParamType := do
  match ← text? fields "type" path with
  | some word =>
    match ParamType.parse? word with
    | some type => return type
    | none => refuse path s!"{label} has unknown type '{word}'"
  | none =>
    if choices.isSome then return .choice
    match default with
    | some (.bool _) => return .boolean
    | _ => return .string

/-- Refuse a default that is no value of the type, or none of the choices. -/
def checkDefault (label : String) (path : List String) (type : ParamType)
    (choices : Option (List Value)) : Option Value → Outcome Unit
  | none => .ok ()
  | some v => do
    unless fits type v do refuse path s!"{label} default {v.compact} is not a valid {type.name}"
    if let some vs := choices then
      unless isAmong v vs do refuse path s!"{label} default {v.compact} is not one of its choices"

/-- What arguments and options have in common. `role` says which of the two is read. -/
def read (fields : Fields) (role name : String) (path : List String) (required : Bool) :
    Outcome Param := do
  let label := s!"{role} '{name}'"
  let choices ← readChoices fields label path
  let default := fields.present? "default"
  let type ← readType fields label path choices default
  if type = .choice && choices.isNone then refuse path s!"{label} of type 'choice' needs 'choices'"
  if type = .boolean && choices.isSome then
    refuse path s!"{label} is a flag and cannot have 'choices'"
  checkDefault label path type choices default
  let description ← description? fields path
  return { name, type, description := Text.trim (description.getD ""), required, choices, default }

/-- The name of a parameter, without the dashes in front. -/
def readName (fields : Fields) (role : String) (path : List String) : Outcome String := do
  match ← text? fields "name" path with
  | none => refuse path s!"{role} without a 'name'"
  | some raw =>
    let name := Text.trimLeft (· == '-') raw
    unless isName name do refuse path s!"invalid {role} name '{raw}'"
    return name

/-- Whether a name shares its identifier with one of some parameters. -/
def isTaken (name : String) (ps : List Param) : Bool :=
  ps.any fun p => Naming.identifier p.name == Naming.identifier name

/-- Read one argument after those before it. -/
def readArgument (path : List String) (before : List Argument) (fields : Fields) :
    Outcome Argument := do
  let name ← readName fields "argument" path
  if isTaken name before then refuse path s!"duplicate argument '{name}'"
  let argument ← read fields "argument" name path true
  let required ← match ← bool? fields "required" path with
    | some true =>
      if argument.default.isSome then
        refuse path s!"required argument '{name}' cannot have a default"
      else pure true
    | some false => pure false
    | none => pure argument.default.isNone
  if required && before.any (!·.required) then
    refuse path s!"required argument '{name}' follows an optional one"
  return { argument with required }

/-- The arguments of a command. -/
def readArguments (fields : Fields) (path : List String) : Outcome (List Argument) := do
  (← mappings fields "args" path).foldlM
    (fun before entry => return before ++ [← readArgument path before entry]) []

/-- The short form of an option. -/
def readShort (fields : Fields) (name : String) (path : List String) : Outcome (Option Char) := do
  match ← text? fields "short" path with
  | none => return none
  | some raw =>
    match (Text.trimLeft (· == '-') raw).toList with
    | [c] => if c.isAlphanum then return some c
    | _ => pure ()
    refuse path s!"option '--{name}': 'short' must be a single character, got '{raw}'"

/-- Read one option after those before it. `--help` and `-h` are taken by every command line. -/
def readOption (path : List String) (before : List NamedOption) (fields : Fields) :
    Outcome NamedOption := do
  let name ← readName fields "option" path
  if name == "help" then refuse path s!"option '--{name}' is reserved"
  if isTaken name (before.map (·.toParam)) then refuse path s!"duplicate option '--{name}'"
  let short ← readShort fields name path
  if let some c := short then
    if c == 'h' then refuse path s!"short flag '-{c}' is reserved"
    if before.any (·.short == some c) then refuse path s!"duplicate short flag '-{c}'"
  let env ← text? fields "env" path
  let required ← bool? fields "required" path
  let param ← read fields "option" name path (required.getD false)
  return { param with short, env }

/-- The options of a command, or of the whole command line. -/
def readOptions (fields : Fields) (path : List String) : Outcome (List NamedOption) := do
  (← mappings fields "options" path).foldlM
    (fun before entry => return before ++ [← readOption path before entry]) []

end CliGen.Param
