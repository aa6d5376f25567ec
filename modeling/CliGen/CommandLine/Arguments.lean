/-!
# Arguments

A command takes options, which have a name and maybe a letter, and operands. `Rule.read` sorts the
arguments of a command; it stops at the first argument that names a subcommand, whose arguments are
the remaining ones.
-/

namespace CliGen.CommandLine

/-- Why a command does not run. -/
inductive Halt where
  /-- The arguments make no sense. -/
  | misuse
  /-- Help is asked for on the command at a path. -/
  | help (path : List String)
  /-- The version is asked for. -/
  | version
  deriving DecidableEq

/-- What an option does. -/
inductive OptionKind where
  /-- It is there or not. -/
  | flag
  /-- A value comes with it. -/
  | value (repeatable mayBeEmpty : Bool)
  /-- It ends the reading. -/
  | halt (h : Halt)
  deriving DecidableEq

/-- An option. -/
structure OptionRule where
  name : String
  letter : Option Char
  kind : OptionKind
  about : String
  /-- The environment variable that gives the value if the arguments do not. -/
  environment : Option String
  deriving DecidableEq

/-- Whether a value comes with an option. -/
def OptionRule.takesValue (o : OptionRule) : Bool :=
  match o.kind with
  | .value .. => true
  | _ => false

/-- An operand. -/
structure OperandRule where
  /-- What stands for it in the usage. -/
  mark : String
  mayBeEmpty : Bool
  about : String
  deriving DecidableEq

/-- What a command takes. -/
structure Rule where
  options : List OptionRule
  operands : List OperandRule
  subcommands : List String

/-- What the arguments of a command give. Flags have empty values. -/
structure Given where
  options : List (String × String)
  operands : List String

namespace Given

/-- Nothing is given. -/
def empty : Given := ⟨[], []⟩

/-- The value of an option. -/
def value? (g : Given) (name : String) : Option String := g.options.lookup name

/-- Whether an option is given. -/
def has (g : Given) (name : String) : Bool := (g.value? name).isSome

/-- All values of an option in order. -/
def values (g : Given) (name : String) : List String :=
  (g.options.filter (·.1 == name)).map (·.2)

/-- Give an option. -/
def giveOption (o : OptionRule) (value : String) (g : Given) : Except Halt Given :=
  let given : Given := { g with options := g.options ++ [(o.name, value)] }
  match o.kind with
  | .halt h => .error h
  | .flag => if g.has o.name then .error .misuse else .ok given
  | .value repeatable mayBeEmpty =>
    if (g.has o.name && !repeatable) || (value.isEmpty && !mayBeEmpty) then .error .misuse
    else .ok given

end Given

namespace Rule

/-- Options by their letters, in one argument. What follows the letter of an option with a value is
the value, with or without an equals sign; where nothing follows, the value is the next argument. -/
def readLetters (r : Rule) (g : Given) : List Char → Except Halt (Given × Option OptionRule)
  | [] => .ok (g, none)
  | c :: rest =>
    match r.options.find? (·.letter = some c) with
    | none => .error .misuse
    | some o =>
      if o.takesValue then
        match rest with
        | [] => .ok (g, some o)
        | '=' :: value => (g.giveOption o (String.ofList value)).map (·, none)
        | value => (g.giveOption o (String.ofList value)).map (·, none)
      else
        match g.giveOption o "" with
        | .ok g => readLetters r g rest
        | .error h => .error h

/-- An option by its name, with a value behind an equals sign or with none. -/
def readName (r : Rule) (g : Given) (cs : List Char) : Except Halt (Given × Option OptionRule) :=
  let name := String.ofList (cs.takeWhile (· != '='))
  match r.options.find? (·.name = name), cs.dropWhile (· != '=') with
  | none, _ => .error .misuse
  | some o, [] => if o.takesValue then .ok (g, some o) else (g.giveOption o "").map (·, none)
  | some o, _ :: value =>
    if o.takesValue then (g.giveOption o (String.ofList value)).map (·, none) else .error .misuse

/-- One more operand. -/
def readOperand (r : Rule) (g : Given) (operand : String) : Except Halt Given :=
  match r.operands[g.operands.length]? with
  | none => .error .misuse
  | some o =>
    if operand.isEmpty && !o.mayBeEmpty then .error .misuse
    else .ok { g with operands := g.operands ++ [operand] }

/-- How far the arguments of a command are read. -/
structure Progress where
  given : Given
  /-- The option whose value is the next argument. -/
  waiting : Option OptionRule
  /-- Whether all that follows is operands. -/
  plain : Bool

/-- One argument that names no subcommand. -/
def readArgument (r : Rule) (p : Progress) (argument : String) : Except Halt Progress :=
  let operand : Except Halt Progress :=
    (r.readOperand p.given argument).map fun g => { p with given := g }
  let next : Given × Option OptionRule → Progress := fun (g, waiting) => ⟨g, waiting, p.plain⟩
  if p.plain then operand
  else
    match argument.toList, p.waiting with
    | '-' :: _ :: _, some _ => .error .misuse
    | _, some o => (p.given.giveOption o argument).map fun g => ⟨g, none, p.plain⟩
    | ['-', '-'], none => .ok { p with plain := true }
    | '-' :: '-' :: cs, none => (r.readName p.given cs).map next
    | '-' :: c :: cs, none => (r.readLetters p.given (c :: cs)).map next
    | _, none => operand

/-- All arguments up to a subcommand, and the subcommand with its arguments. -/
def readFrom (r : Rule) (p : Progress) :
    List String → Except Halt (Given × Option (String × List String))
  | [] => if p.waiting.isSome then .error .misuse else .ok (p.given, none)
  | argument :: rest =>
    if !p.plain && p.waiting.isNone && r.subcommands.contains argument then
      .ok (p.given, some (argument, rest))
    else
      match r.readArgument p argument with
      | .ok p => readFrom r p rest
      | .error h => .error h

/-- Read the arguments of a command. -/
def read (r : Rule) (arguments : List String) :
    Except Halt (Given × Option (String × List String)) :=
  r.readFrom ⟨.empty, none, false⟩ arguments

end Rule

end CliGen.CommandLine
