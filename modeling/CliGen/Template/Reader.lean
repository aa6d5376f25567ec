import CliGen.Template.Basic
import CliGen.Text.Blank
import CliGen.Value.Json

/-!
# Reading templates

Tags stand between double braces: places that are shown, calls of helpers, and the beginnings,
middles and ends of blocks. A tag of a block that stands alone on its line takes the whole line with
it.
-/

namespace CliGen.Template

/-- What stands between double braces. -/
inductive Tag where
  | shown (r : Ref)
  | call (helper : String) (args : List Arg)
  | opens (block : String) (args : List Arg)
  | otherwise
  | closes (block : String)

/-- Whether a tag belongs to a block. -/
def Tag.ofBlock : Tag → Bool
  | opens .. | otherwise | closes _ => true
  | _ => false

/-- Text between tags, or a tag. -/
inductive Token where
  | text (cs : List Char)
  | tag (t : Tag)

/-! ## Inside a tag -/

/-- The characters of the names that templates use. -/
def isNameChar (c : Char) : Bool :=
  c.isAlphanum || c == '_' || c == '-' || c == '$' || 0x80 ≤ c.toNat

/-- A name that is not the word between two branches. -/
def isPlainName (cs : List Char) : Bool :=
  !cs.isEmpty && cs.all isNameChar && String.ofList cs != "else"

/-- Keys with points or slashes between them. -/
def readKeys (outward : Nat) (cs : List Char) : Option Ref :=
  let parts := Text.pieces (fun c => c == '.' || c == '/') cs
  let parts := match parts with
    | ['t', 'h', 'i', 's'] :: rest => rest
    | all => all
  if parts.all isPlainName then some (.keys outward (parts.map String.ofList)) else none

/-- A place. -/
def readRef (outward : Nat) : List Char → Option Ref
  | '.' :: '.' :: '/' :: rest => readRef (outward + 1) rest
  | '@' :: name => if isPlainName name then some (.loop (String.ofList name)) else none
  | ['.'] => some (.keys outward [])
  | cs => readKeys outward cs

/-- A place or a scalar. -/
def readArg (word : List Char) : Option Arg :=
  match Json.parseChars word with
  | .ok v => if v.isScalar then some (.literal v) else none
  | .error _ => (readRef 0 word).map .ref

/-- Words at blanks, except for blanks in quotes. -/
def tagWords (inQuotes escaped : Bool) (word : List Char) : List Char → Option (List (List Char))
  | [] =>
    if inQuotes then none else some (if word.isEmpty then [] else [word.reverse])
  | c :: rest =>
    if inQuotes then
      tagWords (escaped || c != '"') (!escaped && c == '\\') (c :: word) rest
    else if c == '"' then
      if word.isEmpty then tagWords true false [c] rest else none
    else if Text.isBlank c then
      (tagWords false false [] rest).map fun ws => if word.isEmpty then ws else word.reverse :: ws
    else tagWords false false (c :: word) rest

/-- The tag that stands between braces. -/
def readTag (cs : List Char) : Option Tag := do
  match cs.dropWhile Text.isBlank with
  | '#' :: rest =>
    match ← tagWords false false [] rest with
    | [] => none
    | name :: args =>
      guard (isPlainName name)
      return .opens (String.ofList name) (← args.mapM readArg)
  | '/' :: rest =>
    match ← tagWords false false [] rest with
    | [name] =>
      guard (isPlainName name)
      return .closes (String.ofList name)
    | _ => none
  | rest =>
    match ← tagWords false false [] rest with
    | [] => none
    | [['e', 'l', 's', 'e']] => return .otherwise
    | [word] => return .shown (← readRef 0 word)
    | name :: args =>
      guard (isPlainName name)
      return .call (String.ofList name) (← args.mapM readArg)

/-! ## From text to tokens -/

/-- Text up to the braces that open a tag, and what follows them. -/
def cutText : List Char → List Char × Option (List Char)
  | [] => ([], none)
  | '\x7b' :: '\x7b' :: rest => ([], some rest)
  | c :: rest => let (cs, more) := cutText rest; (c :: cs, more)

/-- A tag up to the braces that close it, and what follows them; braces in quotes do not. -/
def cutTag (inQuotes escaped : Bool) : List Char → Option (List Char × List Char)
  | [] => none
  | c :: rest =>
    if !inQuotes && c == '\x7d' then
      match rest with
      | '\x7d' :: more => some ([], more)
      | _ => none
    else
      let inside := if inQuotes then escaped || c != '"' else c == '"'
      (cutTag inside (inQuotes && !escaped && c == '\\') rest).map fun (cs, more) => (c :: cs, more)

/-- The tokens of a template. -/
def tokens : Nat → List Char → Option (List Token)
  | 0, _ => none
  | fuel + 1, cs => do
    let (before, more) := cutText cs
    let rest ← match more with
      | none => some []
      | some inside => do
        let (tag, after) ← cutTag false false inside
        pure (.tag (← readTag tag) :: (← tokens fuel after))
    return if before.isEmpty then rest else .text before :: rest

/-! ## Tags that stand alone -/

/-- The blanks within a line. -/
def isSpace (c : Char) : Bool := c == ' ' || c == '\t'

/-- The characters that end a line. -/
def isLineEnd (c : Char) : Bool := c == '\n' || c == '\r'

/-- Whether text ends with the blank beginning of a line. `atStart` tells this of what stands before
the text. -/
def endsLine (atStart : Bool) (cs : List Char) : Bool :=
  match cs.reverse.dropWhile isSpace with
  | [] => atStart
  | c :: _ => isLineEnd c

/-- Whether the rest of the line is blank. The end of the template ends no line. -/
def beginsLine : List Token → Bool
  | .text cs :: _ =>
    match cs.dropWhile isSpace with
    | c :: _ => isLineEnd c
    | [] => false
  | _ => false

/-- Leave out the blank rest of a line and its end. -/
def dropLineRest (cs : List Char) : List Char :=
  match cs.dropWhile isSpace with
  | '\r' :: '\n' :: rest | '\n' :: rest => rest
  | rest => rest

/-- Leave out the blanks at the end. -/
def dropSpaces (cs : List Char) : List Char := (cs.reverse.dropWhile isSpace).reverse

/-- Take out the lines of the block tags that stand alone. `atStart` tells whether the line is blank
so far, `afterAlone` whether the tag before stood alone. -/
def dropTagLines (atStart afterAlone : Bool) : List Token → List Token
  | [] => []
  | .tag t :: rest =>
    .tag t :: dropTagLines false (t.ofBlock && atStart && beginsLine rest) rest
  | .text cs :: rest =>
    let kept := if afterAlone then dropLineRest cs else cs
    let opensLine := endsLine atStart cs
    let alone := match rest with
      | .tag t :: after => t.ofBlock && opensLine && beginsLine after
      | _ => false
    .text (if alone then dropSpaces kept else kept) :: dropTagLines opensLine false rest

/-! ## From tokens to pieces -/

/-- A block that is open: what stands before it, and its first branch if that has ended. Pieces are
kept in reverse. -/
structure OpenBlock where
  name : String
  args : List Arg
  before : List Piece
  first : Option (List Piece)

namespace OpenBlock

/-- The piece of a block whose last branch has ended. A block that nothing is known of is left to
the helpers. -/
def close (b : OpenBlock) (last : List Piece) : Piece :=
  let (body, otherwise) := match b.first with
    | some first => (first.reverse, last.reverse)
    | none => (last.reverse, [])
  match b.name, b.args with
  | "if", subject :: _ => .choose true subject body otherwise
  | "unless", subject :: _ => .choose false subject body otherwise
  | "each", subject :: _ => .each subject body otherwise
  | name, args => .call name args

end OpenBlock

/-- Put the pieces into their blocks. -/
def nest (blocks : List OpenBlock) (read : List Piece) : List Token → Option Template
  | [] => if blocks.isEmpty then some read.reverse else none
  | .text cs :: rest =>
    nest blocks (if cs.isEmpty then read else .text (String.ofList cs) :: read) rest
  | .tag t :: rest =>
    match t, blocks with
    | .shown r, _ => nest blocks (.shown r :: read) rest
    | .call helper args, _ => nest blocks (.call helper args :: read) rest
    | .opens name args, _ => nest (⟨name, args, read, none⟩ :: blocks) [] rest
    | .otherwise, b :: outer =>
      if b.first.isNone then nest ({ b with first := some read } :: outer) [] rest else none
    | .closes name, b :: outer =>
      if b.name == name then nest outer (b.close read :: b.before) rest else none
    | _, [] => none

/-- The template that a text spells. -/
def parse (text : String) : Option Template := do
  nest [] [] (dropTagLines true false (← tokens (text.length + 1) text.toList))

end CliGen.Template
