import CliGen.Yaml.Text

/-!
# Tokens

A text is cut into tokens from left to right. What begins a block collection has no mark of its own:
it follows from indentation, and for a mapping only the colon behind its first key tells that one
has begun. `SimpleKey` remembers where such a key may stand, and the tokens it calls for are put in
front of it when its colon comes.

`Token.scan` answers `none` for a text that is no sequence of tokens.
-/

namespace CliGen.Yaml

/-- The pieces that documents are made of. -/
inductive Token where
  | version (major minor : Nat)
  | tagDirective (handle start : List Char)
  | documentStart
  | documentEnd
  | streamEnd
  | blockSequenceStart
  | blockMappingStart
  | blockEnd
  | flowSequenceStart
  | flowSequenceEnd
  | flowMappingStart
  | flowMappingEnd
  | blockEntry
  | flowEntry
  | key
  | value
  | alias (name : List Char)
  | anchor (name : List Char)
  | tag (handle suffix : List Char)
  | scalar (text : List Char) (style : Style)
  deriving DecidableEq

/-- A place where a key without a mark of its own may begin. -/
structure SimpleKey where
  possible : Bool := false
  /-- Whether a key must stand here, because a line begins here at the indentation of a block. -/
  required : Bool := false
  token : Nat := 0
  index : Nat := 0
  line : Nat := 0
  column : Nat := 0

/-- The tokens so far, with what decides which may come next. -/
structure Scanner where
  cursor : Cursor
  tokens : Array Token
  /-- The column of the innermost block collection, or -1. -/
  indent : Int
  /-- The columns of the blocks around it. -/
  indents : List Int
  /-- The possible key of each open flow collection, innermost first, and of the block around
  them. -/
  keys : List SimpleKey
  keyAllowed : Bool

namespace Scanner

/-- The start of a text. -/
def start (cs : List Char) : Scanner := ⟨.start cs, #[], -1, [], [{}], true⟩

/-- Whether a flow collection is open. -/
def inFlow (s : Scanner) : Bool := 1 < s.keys.length

/-- Add a token at the end. -/
def push (s : Scanner) (t : Token) : Scanner := { s with tokens := s.tokens.push t }

/-- Add a token in front of the token with some number. -/
def insert (s : Scanner) (n : Nat) (t : Token) : Scanner :=
  { s with tokens := (s.tokens.toList.take n ++ t :: s.tokens.toList.drop n).toArray }

/-- Change the possible key of the innermost collection. -/
def setKey (s : Scanner) (k : SimpleKey) : Scanner := { s with keys := k :: s.keys.drop 1 }

/-- Give up the possible key of the innermost collection, unless one is required. -/
def dropKey (s : Scanner) : Option Scanner :=
  match s.keys with
  | k :: _ =>
    if k.possible && k.required then none else some (s.setKey { k with possible := false })
  | [] => some s

/-- Give up the keys that are too far behind: a key and its colon share a line and lie at most 1024
characters apart. -/
def dropStaleKeys (s : Scanner) : Option Scanner := do
  let keys ← s.keys.mapM fun k =>
    if k.possible && (k.line < s.cursor.line || k.index + 1024 < s.cursor.index) then
      if k.required then none else some { k with possible := false }
    else some k
  return { s with keys }

/-- Note that a key may begin here. -/
def saveKey (s : Scanner) : Option Scanner :=
  if s.keyAllowed then do
    let s ← s.dropKey
    return s.setKey {
      possible := true
      required := !s.inFlow && decide (s.indent = s.cursor.column)
      token := s.tokens.size
      index := s.cursor.index
      line := s.cursor.line
      column := s.cursor.column }
  else some s

/-- Open a block collection if the column lies deeper than the innermost one. -/
def openBlock (s : Scanner) (column : Nat) (t : Token) (place : Option Nat) : Scanner :=
  if s.inFlow || decide ((column : Int) ≤ s.indent) then s
  else
    let s := { s with indents := s.indent :: s.indents, indent := column }
    match place with
    | none => s.push t
    | some n => s.insert n t

/-- Close the block collections that lie deeper than a column. -/
def closeBlocks (column : Int) : List Int → Scanner → Scanner
  | [], s => s
  | outer :: rest, s =>
    if !s.inFlow && decide (column < s.indent) then
      closeBlocks column rest { s.push .blockEnd with indent := outer, indents := rest }
    else s

/-- Close the block collections that lie deeper than a column. -/
def unroll (s : Scanner) (column : Int) : Scanner := closeBlocks column s.indents s

/-- Go on behind some characters. -/
def skip (s : Scanner) (n : Nat) : Scanner := { s with cursor := s.cursor.skip n }

/-! ## Between tokens -/

/-- Leave out blanks, comments and line ends. A new line allows a key, outside of flow collections;
there tabs may not stand where a key is allowed. -/
def skipGap : Nat → Scanner → Scanner
  | 0, s => s
  | fuel + 1, s =>
    let c := s.cursor
    let c := if c.column == 0 && c.sees '\uFEFF' then c.skip 1 else c
    let tabs := s.inFlow || !s.keyAllowed
    let c := c.skipWhile fun d => d == ' ' || (tabs && d == '\t')
    let c := if c.sees '#' then c.skipWhile (!isBreak ·) else c
    if (c.at? 0).any isBreak then
      skipGap fuel { s with cursor := c.nextLine.2, keyAllowed := s.keyAllowed || !s.inFlow }
    else { s with cursor := c }

/-! ## Directives, anchors and tags -/

/-- A number of a version: one to nine digits. -/
def readVersionPart (c : Cursor) : Option (Nat × Cursor) :=
  let (ds, c) := c.takeWhile Char.isDigit
  if ds.isEmpty || 9 < ds.length then none
  else some (ds.foldl (fun n d => n * 10 + (d.toNat - 48)) 0, c)

/-- A handle of a tag: `!`, `!!` or `!word!`. Elsewhere than in a directive a word without its
second mark is the start of a tag. -/
def readHandle (inDirective : Bool) (c : Cursor) : Option (List Char × Cursor) :=
  if !c.sees '!' then none
  else
    let (word, c) := (c.skip 1).takeWhile isWordChar
    if c.sees '!' then some ('!' :: word ++ ['!'], c.skip 1)
    else if inDirective && !word.isEmpty then none
    else some ('!' :: word, c)

/-- The bytes of percent escapes, from behind the first percent sign. -/
def readPercent (c : Cursor) : Option (Nat × Cursor) :=
  match c.rest with
  | '%' :: a :: b :: _ =>
    match Quoted.hexValue? a, Quoted.hexValue? b with
    | some a, some b => some (16 * a + b, c.skip 3)
    | _, _ => none
  | _ => none

/-- The continuation bytes of a character. -/
def readPercents : Nat → Nat → Cursor → Option (Nat × Cursor)
  | 0, n, c => some (n, c)
  | k + 1, n, c =>
    match readPercent c with
    | some (b, c) => if b / 64 = 2 then readPercents k (n * 64 + b % 64) c else none
    | none => none

/-- A character written as percent escapes of its bytes. -/
def readPercentChar (c : Cursor) : Option (Char × Cursor) := do
  let (b, c) ← readPercent c
  let (n, more) ←
    if b < 128 then some (b, 0)
    else if b / 32 = 6 then some (b % 32, 1)
    else if b / 16 = 14 then some (b % 16, 2)
    else if b / 8 = 30 then some (b % 8, 3)
    else none
  let (n, c) ← readPercents more n c
  return (Char.ofNat n, c)

/-- The characters of a tag. Inside of `<` and `>` and in a directive commas and brackets count. -/
def readTagChars (wide : Bool) : Nat → List Char → Cursor → Option (List Char × Cursor)
  | 0, _, _ => none
  | fuel + 1, read, c =>
    match c.at? 0 with
    | some d =>
      if d == '%' then
        match readPercentChar c with
        | some (e, c) => readTagChars wide fuel (e :: read) c
        | none => none
      else if isWordChar d || ";/?:@&=+$.!~*'()".toList.contains d ||
          (wide && ",[]".toList.contains d) then
        readTagChars wide fuel (d :: read) (c.skip 1)
      else some (read.reverse, c)
    | none => some (read.reverse, c)

/-- The rest of a tag behind its start `head`; the two may not both be missing. -/
def readTagRest (wide : Bool) (head : List Char) (c : Cursor) : Option (List Char × Cursor) := do
  let (chars, c) ← readTagChars wide (c.rest.length + 1) [] c
  if head.isEmpty && chars.isEmpty then none else some (head.drop 1 ++ chars, c)

/-- A tag: its handle, and the rest. A single `!` has an empty handle, and so has a tag in angle
brackets. -/
def readTag (inFlow : Bool) (c : Cursor) : Option (Token × Cursor) := do
  let (handle, suffix, c) ←
    if (c.at? 1) == some '<' then
      match readTagRest true [] (c.skip 2) with
      | some (suffix, c) => if c.sees '>' then some ([], suffix, c.skip 1) else none
      | none => none
    else
      match readHandle false c with
      | some (handle, c) =>
        if 1 < handle.length && handle.getLast? == some '!' then
          (readTagRest false [] c).map fun (suffix, c) => (handle, suffix, c)
        else
          (readTagRest false handle c).map fun (suffix, c) =>
            if suffix.isEmpty then ([], ['!'], c) else (['!'], suffix, c)
      | none => none
  if (inFlow && c.sees ',') || c.atGap 0 then some (.tag handle suffix, c) else none

/-- A directive, from behind its percent sign to the end of its line. -/
def readDirective (c : Cursor) : Option (Token × Cursor) := do
  let (name, c) := c.takeWhile isWordChar
  if !c.atGap 0 then none
  let (token, c) ←
    if name = ['Y', 'A', 'M', 'L'] then do
      let (major, c) ← readVersionPart (c.skipWhile isBlank)
      if !c.sees '.' then none
      let (minor, c) ← readVersionPart (c.skip 1)
      pure (Token.version major minor, c)
    else if name = ['T', 'A', 'G'] then do
      let (handle, c) ← readHandle true (c.skipWhile isBlank)
      if !(c.at? 0).any isBlank then none
      let (start, c) ← readTagRest true [] (c.skipWhile isBlank)
      if !c.atGap 0 then none
      pure (Token.tagDirective handle start, c)
    else none
  let c := c.skipWhile isBlank
  let c := if c.sees '#' then c.skipWhile (!isBreak ·) else c
  if c.atBreak 0 then some (token, c.nextLine.2) else none

/-- The name of an anchor or alias. -/
def readName (c : Cursor) : Option (List Char × Cursor) :=
  let (name, c) := c.takeWhile isWordChar
  if name.isEmpty || !(c.atGap 0 || (c.at? 0).any ("?:,]\x7d%@\x60".toList.contains ·)) then none
  else some (name, c)

/-! ## Tokens -/

/-- Close all blocks at a mark between documents or at the end. -/
def closeDocument (s : Scanner) : Option Scanner := do
  let s ← (s.unroll (-1)).dropKey
  return { s with keyAllowed := false }

/-- Open a flow collection. -/
def openFlow (s : Scanner) (t : Token) : Option Scanner := do
  let s ← s.saveKey
  return { (s.skip 1).push t with keys := {} :: s.keys, keyAllowed := true }

/-- Close a flow collection. -/
def closeFlow (s : Scanner) (t : Token) : Option Scanner := do
  let s ← s.dropKey
  let keys := if s.inFlow then s.keys.drop 1 else s.keys
  return { (s.skip 1).push t with keys, keyAllowed := false }

/-- An item of a block sequence. -/
def blockEntry (s : Scanner) : Option Scanner := do
  if !s.inFlow && !s.keyAllowed then none
  let s ← (s.openBlock s.cursor.column .blockSequenceStart none).dropKey
  return { (s.skip 1).push .blockEntry with keyAllowed := true }

/-- The mark of a key. -/
def keyMark (s : Scanner) : Option Scanner := do
  if !s.inFlow && !s.keyAllowed then none
  let s ← (s.openBlock s.cursor.column .blockMappingStart none).dropKey
  return { (s.skip 1).push .key with keyAllowed := !s.inFlow }

/-- The colon in front of a value. If a key may have begun before it, it did. -/
def valueMark (s : Scanner) : Option Scanner := do
  match s.keys with
  | k :: _ =>
    if k.possible then
      let s := (s.insert k.token .key).openBlock k.column .blockMappingStart (some k.token)
      let s := { s.setKey { k with possible := false } with keyAllowed := false }
      return (s.skip 1).push .value
    else
      if !s.inFlow && !s.keyAllowed then none
      let s := s.openBlock s.cursor.column .blockMappingStart none
      return { (s.skip 1).push .value with keyAllowed := !s.inFlow }
  | [] => none

/-- A token that a key may begin with, read from behind its first characters. -/
def item (s : Scanner) (n : Nat) (read : Cursor → Option (Token × Cursor)) : Option Scanner := do
  let s ← s.saveKey
  let (t, cursor) ← read (s.cursor.skip n)
  return { s.push t with cursor, keyAllowed := false }

/-- A plain scalar. If it ends behind a line end, a key may follow. -/
def plain (s : Scanner) : Option Scanner := do
  let s ← s.saveKey
  let (text, broken, cursor) ←
    readPlain s.inFlow (s.indent + 1) (s.cursor.rest.length + 1) [] {} s.cursor
  return { s.push (.scalar text .plain) with cursor, keyAllowed := broken }

/-- A block scalar. -/
def blockScalar (s : Scanner) (literal : Bool) : Option Scanner := do
  let s ← s.dropKey
  let (text, cursor) ← readBlock literal s.indent (s.cursor.skip 1)
  return { s.push (.scalar text .block) with cursor, keyAllowed := true }

/-- A quoted scalar. -/
def quoted (double : Bool) (c : Cursor) : Option (Token × Cursor) :=
  (readQuoted double (c.rest.length + 1) [] c).map fun (text, c) => (.scalar text .quoted, c)

/-- Whether a plain scalar may begin here. -/
def beginsPlain (inFlow : Bool) (c : Cursor) : Bool :=
  match c.at? 0 with
  | none => false
  | some d =>
    !(isBlank d || isBreak d || "-?:,[]\x7b\x7d#&*!|>'\"%@\x60".toList.contains d) ||
      (d == '-' && !(c.at? 1).any isBlank) ||
      (!inFlow && (d == '?' || d == ':') && !c.atGap 1)

/-- The next token. -/
def next (s : Scanner) : Option Scanner := do
  let s ← (skipGap (s.cursor.rest.length + 1) s).dropStaleKeys
  let s := s.unroll s.cursor.column
  let c := s.cursor
  match c.rest with
  | [] => return (← s.closeDocument).push .streamEnd
  | d :: _ =>
    if c.column == 0 && d == '%' then
      let s ← s.closeDocument
      let (t, cursor) ← readDirective (c.skip 1)
      return { s.push t with cursor }
    else if c.atDocumentMark then
      let s ← s.closeDocument
      return (s.skip 3).push (if d == '-' then .documentStart else .documentEnd)
    else if d == '[' then s.openFlow .flowSequenceStart
    else if d == '\x7b' then s.openFlow .flowMappingStart
    else if d == ']' then s.closeFlow .flowSequenceEnd
    else if d == '\x7d' then s.closeFlow .flowMappingEnd
    else if d == ',' then
      let s ← s.dropKey
      return { (s.skip 1).push .flowEntry with keyAllowed := true }
    else if d == '-' && c.atGap 1 then s.blockEntry
    else if d == '?' && (s.inFlow || c.atGap 1) then s.keyMark
    else if d == ':' && (s.inFlow || c.atGap 1) then s.valueMark
    else if d == '*' then s.item 1 fun c => (readName c).map fun (n, c) => (.alias n, c)
    else if d == '&' then s.item 1 fun c => (readName c).map fun (n, c) => (.anchor n, c)
    else if d == '!' then s.item 0 (readTag s.inFlow)
    else if (d == '|' || d == '>') && !s.inFlow then s.blockScalar (d == '|')
    else if d == '\'' || d == '"' then s.item 1 (quoted (d == '"'))
    else if beginsPlain s.inFlow c then s.plain
    else none

/-- All tokens up to the end of the text. Every token but the last takes a character, so the fuel
suffices. -/
def run : Nat → Scanner → Option (List Token)
  | 0, _ => none
  | fuel + 1, s =>
    match s.next with
    | none => none
    | some s => if s.tokens.back? == some .streamEnd then some s.tokens.toList else run fuel s

end Scanner

/-- The characters that a text may hold. -/
def isTextChar (c : Char) : Bool :=
  let n := c.toNat
  n == 9 || n == 10 || n == 13 || (0x20 ≤ n && n ≤ 0x7E) || n == 0x85 ||
    (0xA0 ≤ n && n ≤ 0xD7FF) || (0xE000 ≤ n && n ≤ 0xFFFD) || 0x10000 ≤ n

/-- The tokens of a text. A byte order mark in front is left out. -/
def Token.scan (cs : List Char) : Option (List Token) :=
  let cs := match cs with
    | '\uFEFF' :: rest => rest
    | _ => cs
  if cs.all isTextChar then Scanner.run (cs.length + 2) (.start cs) else none

end CliGen.Yaml
