import CliGen.Yaml.Token

/-!
# Events

The tokens of a document, read as the traversal of its nodes: scalars, references to earlier nodes,
and the starts and ends of collections. A missing node is an empty plain scalar.

`Event.ofTokens?` accepts a stream of at most one document.
-/

namespace CliGen.Yaml

/-- What the core schema knows about the tag of a node. -/
inductive Tag where
  | bool
  | int
  | float
  | null
  /-- A tag of the document's own. -/
  | custom
  /-- Any other tag. -/
  | foreign
  deriving DecidableEq

/-- A step of the traversal of a document. -/
inductive Event where
  | alias (name : List Char)
  | scalar (anchor : Option (List Char)) (tag : Option Tag) (style : Style) (text : List Char)
  | sequenceStart (anchor : Option (List Char)) (tag : Option Tag)
  | sequenceEnd
  | mappingStart (anchor : Option (List Char)) (tag : Option Tag)
  | mappingEnd

namespace Event

/-- The start of the tags of the core schema. -/
def coreStart : List Char := "tag:yaml.org,2002:".toList

/-- What the full text of a tag means. -/
def tagOf (text : List Char) : Tag :=
  if text = coreStart ++ "bool".toList then .bool
  else if text = coreStart ++ "int".toList then .int
  else if text = coreStart ++ "float".toList then .float
  else if text = coreStart ++ "null".toList then .null
  else if text.head? = some '!' then .custom
  else .foreign

/-- The starts that the handles of a document stand for. -/
abbrev Handles := List (List Char × List Char)

/-- The handles that need no directive. -/
def defaultHandles : Handles := [(['!'], ['!']), (['!', '!'], coreStart)]

/-- The tag that a token names; its handle must be known. -/
def tag? (handles : Handles) (handle suffix : List Char) : Option Tag :=
  if handle.isEmpty then some (tagOf suffix)
  else (handles.lookup handle).map fun start => tagOf (start ++ suffix)

/-- What may stand in front of a node: an anchor and a tag, in either order. -/
def properties (handles : Handles) (ts : List Token) :
    Option ((Option (List Char) × Option Tag) × List Token) :=
  match ts with
  | .anchor a :: .tag h s :: ts => (tag? handles h s).map fun t => ((some a, some t), ts)
  | .anchor a :: ts => some ((some a, none), ts)
  | .tag h s :: .anchor a :: ts => (tag? handles h s).map fun t => ((some a, some t), ts)
  | .tag h s :: ts => (tag? handles h s).map fun t => ((none, some t), ts)
  | ts => some ((none, none), ts)

/-- The node that is left out. -/
def empty : Event := .scalar none none .plain []

/-- The events so far, last one first, and the tokens left. -/
abbrev Progress := List Event × List Token

/-- Whether a token ends a place for a node: one of some tokens follows. -/
def follows (ends : List Token) (ts : List Token) : Bool := ts.head?.any (ends.contains ·)

mutual

/-- A node. `block` allows block collections, and `indentless` a block sequence that is not indented
deeper than its key. -/
def node (handles : Handles) (block indentless : Bool) (fuel : Nat) (p : Progress) :
    Option Progress :=
  match fuel with
  | 0 => none
  | fuel + 1 =>
    match p.2 with
    | .alias name :: ts => some (.alias name :: p.1, ts)
    | ts =>
      match properties handles ts with
      | none => none
      | some ((a, t), ts) =>
        match ts, indentless, block with
        | .blockEntry :: _, true, _ => indentlessItems handles fuel (.sequenceStart a t :: p.1, ts)
        | .scalar text style :: ts, _, _ => some (.scalar a t style text :: p.1, ts)
        | .flowSequenceStart :: ts, _, _ =>
          flowItems handles true fuel (.sequenceStart a t :: p.1, ts)
        | .flowMappingStart :: ts, _, _ =>
          flowPairs handles true fuel (.mappingStart a t :: p.1, ts)
        | .blockSequenceStart :: ts, _, true =>
          blockItems handles fuel (.sequenceStart a t :: p.1, ts)
        | .blockMappingStart :: ts, _, true =>
          blockPairs handles fuel (.mappingStart a t :: p.1, ts)
        | ts, _, _ =>
          if a.isSome || t.isSome then some (.scalar a t .plain [] :: p.1, ts) else none

/-- The items of a block sequence. -/
def blockItems (handles : Handles) (fuel : Nat) (p : Progress) : Option Progress :=
  match fuel with
  | 0 => none
  | fuel + 1 =>
    match p.2 with
    | .blockEntry :: ts =>
      if follows [.blockEntry, .blockEnd] ts then blockItems handles fuel (empty :: p.1, ts)
      else (node handles true false fuel (p.1, ts)).bind (blockItems handles fuel)
    | .blockEnd :: ts => some (.sequenceEnd :: p.1, ts)
    | _ => none

/-- The items of a block sequence that is not indented deeper than its key. -/
def indentlessItems (handles : Handles) (fuel : Nat) (p : Progress) : Option Progress :=
  match fuel with
  | 0 => none
  | fuel + 1 =>
    match p.2 with
    | .blockEntry :: ts =>
      if follows [.blockEntry, .key, .value, .blockEnd] ts then
        indentlessItems handles fuel (empty :: p.1, ts)
      else (node handles true false fuel (p.1, ts)).bind (indentlessItems handles fuel)
    | ts => some (.sequenceEnd :: p.1, ts)

/-- The pairs of a block mapping, from a key on. -/
def blockPairs (handles : Handles) (fuel : Nat) (p : Progress) : Option Progress :=
  match fuel with
  | 0 => none
  | fuel + 1 =>
    match p.2 with
    | .key :: ts =>
      if follows [.key, .value, .blockEnd] ts then blockValue handles fuel (empty :: p.1, ts)
      else (node handles true true fuel (p.1, ts)).bind (blockValue handles fuel)
    | .blockEnd :: ts => some (.mappingEnd :: p.1, ts)
    | _ => none

/-- The rest of a block mapping, from a value on. -/
def blockValue (handles : Handles) (fuel : Nat) (p : Progress) : Option Progress :=
  match fuel with
  | 0 => none
  | fuel + 1 =>
    match p.2 with
    | .value :: ts =>
      if follows [.key, .value, .blockEnd] ts then blockPairs handles fuel (empty :: p.1, ts)
      else (node handles true true fuel (p.1, ts)).bind (blockPairs handles fuel)
    | ts => blockPairs handles fuel (empty :: p.1, ts)

/-- The items of a flow sequence. An item with a key is a mapping of one pair. -/
def flowItems (handles : Handles) (first : Bool) (fuel : Nat) (p : Progress) : Option Progress :=
  match fuel with
  | 0 => none
  | fuel + 1 =>
    match p.2 with
    | .flowSequenceEnd :: ts => some (.sequenceEnd :: p.1, ts)
    | ts =>
      match (if first then some ts else comma ts) with
      | some (.key :: ts) => flowPair handles fuel (.mappingStart none none :: p.1, ts)
      | some (.flowSequenceEnd :: ts) => some (.sequenceEnd :: p.1, ts)
      | some ts => (node handles false false fuel (p.1, ts)).bind (flowItems handles false fuel)
      | none => none

/-- The one pair of a mapping in a flow sequence, from behind the mark of its key. A token in the
place of a missing key is passed over. -/
def flowPair (handles : Handles) (fuel : Nat) (p : Progress) : Option Progress :=
  match fuel with
  | 0 => none
  | fuel + 1 =>
    if follows [.value, .flowEntry, .flowSequenceEnd] p.2 then
      flowPairValue handles fuel (empty :: p.1, p.2.drop 1)
    else (node handles false false fuel p).bind (flowPairValue handles fuel)

/-- The rest of a flow sequence, from the value of a mapping of one pair on. -/
def flowPairValue (handles : Handles) (fuel : Nat) (p : Progress) : Option Progress :=
  match fuel with
  | 0 => none
  | fuel + 1 =>
    match p.2 with
    | .value :: ts =>
      if follows [.flowEntry, .flowSequenceEnd] ts then
        flowItems handles false fuel (.mappingEnd :: empty :: p.1, ts)
      else
        match node handles false false fuel (p.1, ts) with
        | some (es, ts) => flowItems handles false fuel (.mappingEnd :: es, ts)
        | none => none
    | ts => flowItems handles false fuel (.mappingEnd :: empty :: p.1, ts)

/-- The pairs of a flow mapping. A node without the mark of a key is a key without a value. -/
def flowPairs (handles : Handles) (first : Bool) (fuel : Nat) (p : Progress) : Option Progress :=
  match fuel with
  | 0 => none
  | fuel + 1 =>
    match p.2 with
    | .flowMappingEnd :: ts => some (.mappingEnd :: p.1, ts)
    | ts =>
      match (if first then some ts else comma ts) with
      | some (.key :: ts) =>
        if follows [.value, .flowEntry, .flowMappingEnd] ts then
          flowValue handles fuel (empty :: p.1, ts)
        else (node handles false false fuel (p.1, ts)).bind (flowValue handles fuel)
      | some (.flowMappingEnd :: ts) => some (.mappingEnd :: p.1, ts)
      | some ts =>
        match node handles false false fuel (p.1, ts) with
        | some (es, ts) => flowPairs handles false fuel (empty :: es, ts)
        | none => none
      | none => none

/-- The rest of a flow mapping, from a value on. -/
def flowValue (handles : Handles) (fuel : Nat) (p : Progress) : Option Progress :=
  match fuel with
  | 0 => none
  | fuel + 1 =>
    match p.2 with
    | .value :: ts =>
      if follows [.flowEntry, .flowMappingEnd] ts then
        flowPairs handles false fuel (empty :: p.1, ts)
      else (node handles false false fuel (p.1, ts)).bind (flowPairs handles false fuel)
    | ts => flowPairs handles false fuel (empty :: p.1, ts)

/-- The tokens behind a comma, if one is next. -/
def comma : List Token → Option (List Token)
  | .flowEntry :: ts => some ts
  | _ => none

end

/-- The directives in front of a document: at most one version, 1.1 or 1.2, and no handle twice. -/
def directives : Bool → Handles → List Token → Option (Handles × List Token)
  | seen, handles, .version major minor :: ts =>
    if seen || major != 1 || !(minor == 1 || minor == 2) then none
    else directives true handles ts
  | seen, handles, .tagDirective handle start :: ts =>
    if (handles.lookup handle).isSome then none
    else directives seen (handles ++ [(handle, start)]) ts
  | _, handles, ts => some (handles, ts)

/-- Behind the only document there is nothing but marks of its end. -/
def ended (ts : List Token) : Bool := ts.dropWhile (· == .documentEnd) == [.streamEnd]

/-- The events of the only document of a stream; none at all for an empty stream. -/
def ofTokens? (ts : List Token) : Option (List Event) := do
  let fuel := 4 * ts.length + 4
  match ts with
  | [.streamEnd] => return []
  | _ =>
    let marked := follows [.documentStart] ts || ts.head?.any fun
      | .version _ _ | .tagDirective _ _ => true
      | _ => false
    let (handles, ts) ← directives false [] ts
    let handles := handles ++ defaultHandles
    let ts ← if marked then
        match ts with
        | .documentStart :: ts => some ts
        | _ => none
      else some ts
    let bare := marked && (follows [.documentStart, .documentEnd, .streamEnd] ts ||
      ts.head?.any fun
        | .version _ _ | .tagDirective _ _ => true
        | _ => false)
    let (es, ts) ← if bare then some ([empty], ts) else node handles true false fuel ([], ts)
    if ended ts then return es.reverse else none

end Event

end CliGen.Yaml
