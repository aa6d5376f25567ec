import CliGen.Yaml.Event
import CliGen.Yaml.Scalar

/-!
# Reading YAML

`Yaml.parse` reads the only document of a text into a value. Keys are texts as they are written, a
key that is repeated keeps its first place and its last value, and tags of the document's own are
refused. Collections nest at most 128 deep, and references are followed at most a hundred times for
each event of the document.
-/

namespace CliGen.Yaml

/-- Collections nest at most this deep. -/
def maxDepth : Nat := 128

/-- The anchored nodes of a document by number, the last one for a number first. -/
abbrev Anchors := List (Nat × List Event)

/-- Replace references by numbers. An anchor has the number of names known before it, so a name that
is used again gets a new one; every reference must be to a known name. -/
def number (names : List (List Char × Nat)) (anchors : Anchors) :
    List Event → Option (List (Option Nat) × Anchors)
  | [] => some ([], anchors)
  | e :: es =>
    let anchored (a : Option (List Char)) : Option (List (Option Nat) × Anchors) :=
      match a with
      | none => (number names anchors es).map fun (ns, as) => (none :: ns, as)
      | some name =>
        let id := (names.map (·.1)).eraseDups.length
        (number ((name, id) :: names) ((id, e :: es) :: anchors) es).map fun (ns, as) =>
          (none :: ns, as)
    match e with
    | .alias name =>
      match names.lookup name with
      | some id => (number names anchors es).map fun (ns, as) => (some id :: ns, as)
      | none => none
    | .scalar a _ _ _ => anchored a
    | .sequenceStart a _ => anchored a
    | .mappingStart a _ => anchored a
    | .sequenceEnd | .mappingEnd => anchored none

/-- The events of a document, each reference with the number of its anchor. -/
abbrev Steps := List (Event × Option Nat)

/-- The value of a scalar. A known tag asks for its kind of value; a text in quotes or a block is a
text. -/
def scalarValue (tag : Option Tag) (style : Style) (text : List Char) : Option Value :=
  match tag with
  | some .bool => (Scalar.bool? text).map .bool
  | some .int =>
    match Scalar.intText text with
    | .int n => some (.int n)
    | _ => none
  | some .float => Scalar.float? text
  | some .null => if Scalar.isNull text then some .null else none
  | some .custom => none
  | some .foreign => some (.str (String.ofList text))
  | none =>
    if style = .plain then Scalar.plain text else some (.str (String.ofList text))

/-- What reading a document needs to know and to count. -/
structure Book where
  anchors : List (Nat × Steps)
  jumpsLeft : Nat

mutual

/-- The value of the node that begins here. The fuel bounds the steps taken. -/
def value (depth fuel : Nat) (b : Book) (es : Steps) : Option (Value × Book × Steps) :=
  match fuel, es with
  | 0, _ => none
  | _, [] => none
  | fuel + 1, (e, id) :: rest =>
    match e with
    | .alias _ =>
      match b.jumpsLeft, id.bind (b.anchors.lookup ·) with
      | jumps + 1, some target =>
        match value depth fuel { b with jumpsLeft := jumps } target with
        | some (v, b, _) => some (v, b, rest)
        | none => none
      | _, _ => none
    | .scalar _ tag style text => (scalarValue tag style text).map fun v => (v, b, rest)
    | .sequenceStart _ tag =>
      match depth with
      | 0 => none
      | depth + 1 => if tag = some .custom then none else items depth fuel [] b rest
    | .mappingStart _ tag =>
      match depth with
      | 0 => none
      | depth + 1 => if tag = some .custom then none else pairs depth fuel [] b rest
    | .sequenceEnd | .mappingEnd => none

/-- The items of a sequence; `read` are those read, last one first. -/
def items (depth fuel : Nat) (read : List Value) (b : Book) (es : Steps) :
    Option (Value × Book × Steps) :=
  match fuel, es with
  | 0, _ => none
  | _ + 1, (.sequenceEnd, _) :: rest => some (.list read.reverse, b, rest)
  | fuel + 1, es =>
    match value depth fuel b es with
    | some (v, b, rest) => items depth fuel (v :: read) b rest
    | none => none

/-- The pairs of a mapping. -/
def pairs (depth fuel : Nat) (read : Fields) (b : Book) (es : Steps) :
    Option (Value × Book × Steps) :=
  match fuel, es with
  | 0, _ => none
  | _ + 1, (.mappingEnd, _) :: rest => some (.object read, b, rest)
  | fuel + 1, es =>
    match key fuel b es with
    | some (k, b, rest) =>
      match value depth fuel b rest with
      | some (v, b, rest) => pairs depth fuel (read.put k v) b rest
      | none => none
    | none => none

/-- A key: the text of a scalar, or of one that is referred to. -/
def key (fuel : Nat) (b : Book) (es : Steps) : Option (String × Book × Steps) :=
  match fuel, es with
  | fuel + 1, (.alias _, id) :: rest =>
    match b.jumpsLeft, id.bind (b.anchors.lookup ·) with
    | jumps + 1, some target =>
      match key fuel { b with jumpsLeft := jumps } target with
      | some (k, b, _) => some (k, b, rest)
      | none => none
    | _, _ => none
  | _ + 1, (.scalar _ _ _ text, _) :: rest => some (String.ofList text, b, rest)
  | _, _ => none

end

/-- The value of a document. -/
def ofEvents? (es : List Event) : Option Value := do
  let (ids, anchors) ← number [] [] es
  let steps := es.zip ids
  let size := es.length
  let anchors := anchors.map fun (id, tail) => (id, steps.drop (size - tail.length))
  if es.isEmpty then some .null
  else
    let fuel := 3 * (size + 1) * (100 * size + 1)
    match value maxDepth fuel ⟨anchors, 100 * size⟩ steps with
    | some (v, _, []) => some v
    | _ => none

/-- Read a whole text. -/
def parse (text : String) : Option Value := do
  let tokens ← Token.scan text.toList
  let events ← Event.ofTokens? tokens
  ofEvents? events

end CliGen.Yaml
