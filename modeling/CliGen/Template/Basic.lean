import CliGen.Value.Compact

/-!
# Templates

A template is a list of pieces: text, places where a value is shown, calls of helpers, choices and
loops. Filling it in with a value gives a text, or fails where a helper is unknown or refuses what
it is given; a value that is missing is shown as nothing.
-/

namespace CliGen.Template

/-- Where a value is found: by keys, from the value in scope or from one some scopes further out, or
in a variable of the innermost loop. -/
inductive Ref where
  | keys (outward : Nat) (path : List String)
  | loop (name : String)
  deriving DecidableEq

/-- What a helper or a block is given. -/
inductive Arg where
  | ref (r : Ref)
  | literal (v : Value)

/-- A piece of a template. -/
inductive Piece where
  | text (s : String)
  | shown (r : Ref)
  | call (helper : String) (args : List Arg)
  /-- One of two templates, the first if the truth of the subject is `wanted`. -/
  | choose (wanted : Bool) (subject : Arg) (body otherwise : List Piece)
  /-- A template for every item of a list or field of an object, another one if there is none. -/
  | each (subject : Arg) (body otherwise : List Piece)

end Template

/-- A template. -/
abbrev Template := List Template.Piece

namespace Template

/-! ## Values in templates -/

mutual

/-- The text that is shown for a value. -/
def shownText : Value → String
  | .null => ""
  | .bool b => if b then "true" else "false"
  | .int n => toString n
  | .float x => x.text
  | .str s => s
  | .list items => "[" ++ ", ".intercalate (shownTexts items) ++ "]"
  | .object _ => "[object]"

/-- The texts that are shown for the items of a list. -/
def shownTexts : List Value → List String
  | [] => []
  | v :: rest => shownText v :: shownTexts rest

end

/-- The truth of a value: nothing empty is true, and no number that is zero or has lost precision to
its smallness. -/
def isTrue : Value → Bool
  | .null => false
  | .bool b => b
  | .int n => n != 0
  | .float x => 2 ^ 52 ≤ x.mantissa
  | .str s => !s.isEmpty
  | .list items => !items.isEmpty
  | .object fields => !fields.isEmpty

/-! ## Scopes -/

/-- The value in scope and the variables of the loop that put it there. -/
structure Scope where
  value : Value
  locals : Fields

namespace Scope

/-- The scope of a whole context. -/
def outermost (context : Value) : Scope := ⟨context, []⟩

/-- The scopes of a loop over some values, each with variables of its own. -/
def ofLoop (items : List (Value × Fields)) : List Scope :=
  items.zipIdx.map fun ((v, own), i) =>
    ⟨v, own ++ [("first", .bool (i == 0)), ("last", .bool (i + 1 == items.length))]⟩

/-- The scopes of a loop over a value. -/
def loop : Value → List Scope
  | .list items => ofLoop (items.zipIdx.map fun (v, i) => (v, [("index", .int i)]))
  | .object fields => ofLoop (fields.map fun (k, v) => (v, [("key", .str k)]))
  | _ => []

end Scope

/-- The value that keys lead to. -/
def follow : List String → Value → Option Value
  | [], v => some v
  | key :: rest, v => (v.get? key).bind (follow rest)

namespace Ref

/-- The value itself that is in scope. -/
def this : Ref := keys 0 []

/-- The value of a place, from the innermost scope on. Further out than all scopes is the
innermost. -/
def find? (scopes : List Scope) : Ref → Option Value
  | keys outward path => ((scopes[outward]?).or scopes.head?).bind fun s => follow path s.value
  | loop name => scopes.head?.bind fun s => s.locals.get? name

/-- The name that may stand for a helper as well as for a field. -/
def plainName? : Ref → Option String
  | keys 0 [name] => some name
  | _ => none

end Ref

namespace Arg

/-- The value that is given, null where it is missing. -/
def value (scopes : List Scope) : Arg → Value
  | ref r => (r.find? scopes).getD .null
  | literal v => v

end Arg

/-! ## Filling in -/

/-- A helper makes a text of what it is given, or refuses it. -/
abbrev Helper := List Value → Option String

/-- Helpers by name; the first one of a name counts. -/
abbrev Helpers := List (String × Helper)

mutual

/-- The text of a piece. -/
def fillPiece (helpers : Helpers) (scopes : List Scope) : Piece → Option String
  | .text s => some s
  | .shown r =>
    match r.plainName?.bind (helpers.lookup ·) with
    | some helper => helper []
    | none => some (((r.find? scopes).map shownText).getD "")
  | .call name args => (helpers.lookup name).bind fun helper => helper (args.map (·.value scopes))
  | .choose wanted subject body otherwise =>
    if isTrue (subject.value scopes) = wanted then fill helpers scopes body
    else fill helpers scopes otherwise
  | .each subject body otherwise =>
    match Scope.loop (subject.value scopes) with
    | [] => fill helpers scopes otherwise
    | inner => (inner.mapM fun s => fill helpers (s :: scopes) body).map String.join

/-- The text of a template. -/
def fill (helpers : Helpers) (scopes : List Scope) : List Piece → Option String
  | [] => some ""
  | p :: rest => do
    let s ← fillPiece helpers scopes p
    return s ++ (← fill helpers scopes rest)

end

end Template

end CliGen
