import CliGen.Value.Quoted
import CliGen.Yaml.Cursor

/-!
# The forms of a scalar

Each reader starts behind the mark that tells the form, and answers the text and the place behind
it. A line end within a text is folded: a single one becomes a space, of several all but the first
stay.
-/

namespace CliGen.Yaml

/-- How a scalar is written; only a plain one can be anything but a text. -/
inductive Style where
  | plain
  | quoted
  | block
  deriving DecidableEq

/-- Blanks and line ends between two stretches of text. -/
structure Gap where
  blanks : List Char := []
  lineEnd : List Char := []
  more : List Char := []
  broken : Bool := false

namespace Gap

/-- What a gap stands for in the text. -/
def fold (g : Gap) : List Char :=
  if g.broken then
    if g.lineEnd == ['\n'] then (if g.more.isEmpty then [' '] else g.more)
    else g.lineEnd ++ g.more
  else g.blanks

/-- Read blanks and line ends. In a plain scalar a tab may not stand where a line is indented, that
is, before the column `indent`. -/
def read (indent : Option Int) : Nat → Gap → Cursor → Option (Gap × Cursor)
  | 0, _, _ => none
  | fuel + 1, g, c =>
    match c.rest with
    | [] => some (g, c)
    | d :: _ =>
      if isBlank d then
        if g.broken && d == '\t' && indent.any ((c.column : Int) < ·) then none
        else if g.broken then read indent fuel g (c.skip 1)
        else read indent fuel { g with blanks := g.blanks ++ [d] } (c.skip 1)
      else if isBreak d then
        let (lineEnd, c) := c.nextLine
        if g.broken then read indent fuel { g with more := g.more ++ lineEnd } c
        else read indent fuel { g with blanks := [], lineEnd, broken := true } c
      else some (g, c)

end Gap

/-! ## Plain scalars -/

/-- Whether a plain scalar ends within a line in front of this place. -/
def plainEnds (flow : Bool) (c : Cursor) : Bool :=
  (c.sees ':' && c.atGap 1) || (flow && (c.at? 0).any (",[]\x7b\x7d".toList.contains ·))

/-- In a flow collection a colon may not stand right before one of its marks. -/
def badColon (flow : Bool) (c : Cursor) : Bool :=
  flow && c.sees ':' && (c.at? 1).any (",?[]\x7b\x7d".toList.contains ·)

/-- A stretch of a plain scalar without blanks. -/
def plainWord (flow : Bool) : Nat → List Char → Cursor → Option (List Char × Cursor)
  | 0, _, _ => none
  | fuel + 1, read, c =>
    if c.atGap 0 then some (read.reverse, c)
    else if badColon flow c then none
    else if plainEnds flow c then some (read.reverse, c)
    else plainWord flow fuel (c.rest.take 1 ++ read) (c.skip 1)

/-- A plain scalar indented by at least `indent`: its text, whether it ends behind a line end, and
the place behind it and behind the blanks that follow. -/
def readPlain (flow : Bool) (indent : Int) :
    Nat → List Char → Gap → Cursor → Option (List Char × Bool × Cursor)
  | 0, _, _, _ => none
  | fuel + 1, read, gap, c =>
    if c.atDocumentMark || c.sees '#' then some (read, gap.broken, c)
    else do
      let (word, c) ← plainWord flow (c.rest.length + 1) [] c
      let (read, gap) := if word.isEmpty then (read, gap) else (read ++ gap.fold ++ word, {})
      if !(c.at? 0).any (fun d => isBlank d || isBreak d) then some (read, gap.broken, c)
      else
        let (gap, c) ← Gap.read (some indent) (c.rest.length + 1) gap c
        if !flow && (c.column : Int) < indent then some (read, gap.broken, c)
        else readPlain flow indent fuel read gap c

/-! ## Quoted scalars -/

/-- The character that a short escape stands for. -/
def shortEscape? : Char → Option Char
  | '0' => some '\x00'
  | 'a' => some '\x07'
  | 'b' => some '\x08'
  | 't' | '\t' => some '\t'
  | 'n' => some '\n'
  | 'v' => some '\x0b'
  | 'f' => some '\x0c'
  | 'r' => some '\r'
  | 'e' => some '\x1b'
  | ' ' => some ' '
  | '"' => some '"'
  | '/' => some '/'
  | '\\' => some '\\'
  | 'N' => some '\u0085'
  | '_' => some '\u00a0'
  | 'L' => some '\u2028'
  | 'P' => some '\u2029'
  | _ => none

/-- The number of digits of an escape by code point. -/
def escapeWidth? : Char → Option Nat
  | 'x' => some 2
  | 'u' => some 4
  | 'U' => some 8
  | _ => none

/-- The character of an escape, from behind its backslash. -/
def readEscape (c : Cursor) : Option (Char × Cursor) := do
  let mark ← c.at? 0
  match shortEscape? mark with
  | some d => some (d, c.skip 1)
  | none =>
    let width ← escapeWidth? mark
    let ds ← ((c.skip 1).rest.take width).mapM Quoted.hexValue?
    let n := ds.foldl (fun n d => n * 16 + d) 0
    if ds.length = width ∧ n.isValidChar then some (Char.ofNat n, c.skip (width + 1)) else none

/-- A stretch of a quoted scalar without blanks. The flag tells whether it ends with an escaped line
end. -/
def quotedWord (double : Bool) : Nat → List Char → Cursor → Option (List Char × Bool × Cursor)
  | 0, _, _ => none
  | fuel + 1, read, c =>
    if c.atGap 0 then some (read.reverse, false, c)
    else if !double && c.begins ['\'', '\''] then quotedWord double fuel ('\'' :: read) (c.skip 2)
    else if c.sees (if double then '"' else '\'') then some (read.reverse, false, c)
    else if double && c.sees '\\' then
      if (c.at? 1).any isBreak then some (read.reverse, true, (c.skip 1).nextLine.2)
      else
        match readEscape (c.skip 1) with
        | some (d, c) => quotedWord double fuel (d :: read) c
        | none => none
    else quotedWord double fuel (c.rest.take 1 ++ read) (c.skip 1)

/-- A quoted scalar, from behind its opening quote to behind its closing one. -/
def readQuoted (double : Bool) : Nat → List Char → Cursor → Option (List Char × Cursor)
  | 0, _, _ => none
  | fuel + 1, read, c =>
    if c.atDocumentMark || c.rest.isEmpty then none
    else do
      let (word, broken, c) ← quotedWord double (c.rest.length + 1) [] c
      let read := read ++ word
      if c.sees (if double then '"' else '\'') then some (read, c.skip 1)
      else
        let (gap, c) ← Gap.read none (c.rest.length + 1) { broken } c
        readQuoted double fuel (read ++ gap.fold) c

/-! ## Block scalars -/

/-- What happens to the line ends behind the last line of a block scalar. -/
inductive Chomp where
  | strip
  | clip
  | keep
  deriving DecidableEq

/-- The head of a block scalar: how it is chomped, and how far it is indented if that is told. -/
def readBlockHead (c : Cursor) : Option (Chomp × Nat × Cursor) :=
  let chomp? (c : Cursor) : Option Chomp :=
    if c.sees '+' then some .keep else if c.sees '-' then some .strip else none
  let indent? (c : Cursor) : Option Nat :=
    (c.at? 0).bind fun d => if d.isDigit then some (d.toNat - 48) else none
  let (chomp, c₁) := match chomp? c with
    | some k => (some k, c.skip 1)
    | none => (none, c)
  let (indent, c₂) := match indent? c₁ with
    | some n => (some n, c₁.skip 1)
    | none => (none, c₁)
  let (chomp, c₃) := match chomp, indent, chomp? c₂ with
    | none, some _, some k => (some k, c₂.skip 1)
    | _, _, _ => (chomp, c₂)
  if indent = some 0 then none
  else
    let c := c₃.skipWhile isBlank
    let c := if c.sees '#' then c.skipWhile (!isBreak ·) else c
    if c.atBreak 0 then some (chomp.getD .clip, indent.getD 0, c.nextLine.2) else none

/-- The empty lines here, and the largest column reached. With `indent = 0` the indentation is still
open. -/
def blockBreaks (indent : Nat) :
    Nat → Nat → List Char → Cursor → Option (Nat × List Char × Cursor)
  | 0, _, _, _ => none
  | fuel + 1, widest, breaks, c =>
    let spaces := (c.rest.takeWhile (· == ' ')).length
    let c := c.skip (if indent = 0 then spaces else min spaces (indent - c.column))
    let widest := max widest c.column
    if (indent = 0 || c.column < indent) && c.sees '\t' then none
    else if (c.at? 0).any isBreak then
      let (lineEnd, c) := c.nextLine
      blockBreaks indent fuel widest (breaks ++ lineEnd) c
    else some (widest, breaks, c)

/-- The lines of a block scalar indented by `indent`: the text, the last line end, and the empty
lines behind it. -/
def blockLines (literal : Bool) (indent : Nat) :
    Nat → List Char → List Char → List Char → Bool → Cursor →
      Option (List Char × List Char × List Char × Cursor)
  | 0, _, _, _, _, _ => none
  | fuel + 1, read, lineEnd, breaks, afterBlank, c =>
    if c.column ≠ indent ∨ c.rest.isEmpty then some (read, lineEnd, breaks, c)
    else
      let blank := (c.at? 0).any isBlank
      let joint :=
        if !literal && lineEnd == ['\n'] && !afterBlank && !blank then
          (if breaks.isEmpty then [' '] else [])
        else lineEnd
      let (line, c) := c.takeWhile (!isBreak ·)
      let (lineEnd, c) := c.nextLine
      match blockBreaks indent (c.rest.length + 1) 0 [] c with
      | some (_, more, c) =>
        blockLines literal indent fuel (read ++ joint ++ breaks ++ line) lineEnd more blank c
      | none => none

/-- A block scalar, from behind its mark. `parent` is the column that holds the block around it. -/
def readBlock (literal : Bool) (parent : Int) (c : Cursor) : Option (List Char × Cursor) := do
  let (chomp, told, c) ← readBlockHead c
  let fixed := if told = 0 then 0 else (max parent 0).toNat + told
  let (widest, breaks, c) ← blockBreaks fixed (c.rest.length + 1) 0 [] c
  let indent := if fixed = 0 then max widest (max (parent + 1) 1).toNat else fixed
  let (text, lineEnd, breaks, c) ←
    blockLines literal indent (c.rest.length + 1) [] [] breaks false c
  let text := if chomp = .strip then text else text ++ lineEnd
  return (if chomp = .keep then text ++ breaks else text, c)

end CliGen.Yaml
