import CliGen.Toml.DateTime
import CliGen.Toml.Table
import CliGen.Value.Quoted

/-!
# Reading TOML

`Toml.parse` reads a whole text into an object. Dates and times become an object with the one key
`dateTimeKey`, infinities and not-a-number become null, and whole numbers must fit 64 bits with a
sign. Arrays and inline tables nest less than `depthLimit` deep, and a dotted key has fewer parts
than that.
-/

namespace CliGen.Toml

/-- Nesting and dotted keys stay below this. -/
def depthLimit : Nat := 80

/-- The key under which the text of a date or time is given. -/
def dateTimeKey : String := "$__toml_private_datetime"

/-! ## Blanks, comments and line ends -/

def isBlank (c : Char) : Bool := c == ' ' || c == '\t'

/-- Characters that a line may hold: no control character but the tab. -/
def isLineChar (c : Char) : Bool :=
  c == '\t' || (0x20 ≤ c.toNat && c.toNat ≤ 0x7E) || 0x80 ≤ c.toNat

def skipBlanks (cs : List Char) : List Char := cs.dropWhile isBlank

/-- A line end: a line feed, with or without a carriage return before it. -/
def lineEnd? : List Char → Option (List Char)
  | '\n' :: rest => some rest
  | '\r' :: '\n' :: rest => some rest
  | _ => none

/-- Leave out a comment, if one begins here. -/
def skipComment : List Char → List Char
  | '#' :: rest => rest.dropWhile isLineChar
  | cs => cs

/-- The end of a line of the document: blanks, a comment, and a line end or the end of the text. -/
def endLine (cs : List Char) : Option (List Char) :=
  match skipComment (skipBlanks cs) with
  | [] => some []
  | rest => lineEnd? rest

/-- Leave out blanks, line ends and comments. -/
def skipGap : Bool → List Char → List Char
  | _, [] => []
  | _, '\n' :: cs => skipGap false cs
  | _, '\r' :: '\n' :: cs => skipGap false cs
  | true, c :: cs => if isLineChar c then skipGap true cs else c :: cs
  | false, c :: cs =>
    if isBlank c then skipGap false cs
    else if c = '#' then skipGap true cs
    else c :: cs

/-! ## Texts -/

/-- The character of an escape by code point, of as many hexadecimal digits as given. -/
def readCodePoint (width : Nat) (cs : List Char) : Option (Char × List Char) := do
  let ds ← (cs.take width).mapM Quoted.hexValue?
  let n := ds.foldl (fun n d => n * 16 + d) 0
  if ds.length = width ∧ n.isValidChar then some (Char.ofNat n, cs.drop width) else none

/-- The character of an escape, from behind its backslash. -/
def readEscape : List Char → Option (Char × List Char)
  | 'b' :: rest => some ('\x08', rest)
  | 'f' :: rest => some ('\x0c', rest)
  | 'n' :: rest => some ('\n', rest)
  | 'r' :: rest => some ('\r', rest)
  | 't' :: rest => some ('\t', rest)
  | '"' :: rest => some ('"', rest)
  | '\\' :: rest => some ('\\', rest)
  | 'u' :: rest => readCodePoint 4 rest
  | 'U' :: rest => readCodePoint 8 rest
  | _ => none

/-- A text in double quotes, from behind the opening one. -/
def readBasic : Nat → List Char → List Char → Option (String × List Char)
  | 0, _, _ => none
  | _ + 1, _, [] => none
  | fuel + 1, read, c :: cs =>
    if c = '"' then some (String.ofList read.reverse, cs)
    else if c = '\\' then
      match readEscape cs with
      | some (e, rest) => readBasic fuel (e :: read) rest
      | none => none
    else if isLineChar c then readBasic fuel (c :: read) cs
    else none

/-- A text in single quotes, from behind the opening one. -/
def readLiteral (cs : List Char) : Option (String × List Char) :=
  match cs.dropWhile fun c => isLineChar c && c != '\'' with
  | '\'' :: rest =>
    some (String.ofList (cs.takeWhile fun c => isLineChar c && c != '\''), rest)
  | _ => none

/-- The quotes at the end of a text of several lines: up to two belong to the text and three close
it. -/
def closeLines (quote : Char) (read cs : List Char) : Option (String × List Char) :=
  let run := (cs.takeWhile (· == quote)).length
  if 3 ≤ run ∧ run ≤ 5 then
    some (String.ofList (read.reverse ++ List.replicate (run - 3) quote), cs.drop run)
  else if 5 < run then
    some (String.ofList (read.reverse ++ List.replicate 2 quote), cs.drop 5)
  else none

/-- A text of several lines, from behind its opening quotes; `escapes` tells whether it is one with
escapes. A backslash at the end of a line joins it to the next character that is no blank. -/
def readLines (quote : Char) (escapes : Bool) :
    Nat → List Char → List Char → Option (String × List Char)
  | 0, _, _ => none
  | _ + 1, _, [] => none
  | fuel + 1, read, c :: cs =>
    if c = quote then
      match cs with
      | d :: e :: _ =>
        if d = quote ∧ e = quote then closeLines quote read (c :: cs)
        else readLines quote escapes fuel (c :: read) cs
      | _ => readLines quote escapes fuel (c :: read) cs
    else if c = '\\' ∧ escapes then
      match lineEnd? (skipBlanks cs) with
      | some rest => readLines quote escapes fuel read (skipContinued rest)
      | none =>
        match readEscape cs with
        | some (e, rest) => readLines quote escapes fuel (e :: read) rest
        | none => none
    else
      match lineEnd? (c :: cs) with
      | some rest => readLines quote escapes fuel ('\n' :: read) rest
      | none => if isLineChar c then readLines quote escapes fuel (c :: read) cs else none
where
  /-- Leave out blanks and line ends. -/
  skipContinued : List Char → List Char
    | '\n' :: cs => skipContinued cs
    | '\r' :: '\n' :: cs => skipContinued cs
    | c :: cs => if isBlank c then skipContinued cs else c :: cs
    | [] => []

/-- A line end right behind the opening quotes does not belong to the text. -/
def dropFirstLineEnd (cs : List Char) : List Char := (lineEnd? cs).getD cs

/-- A text in any of its four forms. -/
def readText (cs : List Char) : Option (String × List Char) :=
  match cs with
  | '"' :: '"' :: '"' :: rest => readLines '"' true (rest.length + 1) [] (dropFirstLineEnd rest)
  | '\'' :: '\'' :: '\'' :: rest =>
    readLines '\'' false (rest.length + 1) [] (dropFirstLineEnd rest)
  | '"' :: rest => readBasic (rest.length + 1) [] rest
  | '\'' :: rest => readLiteral rest
  | _ => none

/-! ## Keys -/

def isKeyChar (c : Char) : Bool := c.isAlphanum || c == '-' || c == '_'

/-- One part of a key: quoted on one line, or bare. -/
def readKeyPart (cs : List Char) : Option (String × List Char) :=
  match cs with
  | '"' :: rest => readBasic (rest.length + 1) [] rest
  | '\'' :: rest => readLiteral rest
  | _ =>
    let bare := cs.takeWhile isKeyChar
    if bare.isEmpty then none else some (String.ofList bare, cs.dropWhile isKeyChar)

/-- A key: parts joined by points, with blanks around them. Answers all parts but the last, and the
last. -/
def readKey (fuel : Nat) (parts : List String) (cs : List Char) :
    Option ((List String × String) × List Char) :=
  match fuel with
  | 0 => none
  | fuel + 1 => do
    let (part, rest) ← readKeyPart (skipBlanks cs)
    match skipBlanks rest with
    | '.' :: rest => readKey fuel (part :: parts) rest
    | rest => return ((parts.reverse, part), rest)

/-! ## Numbers -/

/-- Digits of a base with single underscores between them. -/
def readDigits (isDigit : Char → Bool) (cs : List Char) : Option (List Char × List Char) :=
  let run := cs.takeWhile fun c => isDigit c || c == '_'
  let rest := cs.dropWhile fun c => isDigit c || c == '_'
  if run.isEmpty || run.head? == some '_' || run.getLast? == some '_' || doubled run then none
  else some (run.filter (· != '_'), rest)
where
  /-- Whether two underscores stand side by side. -/
  doubled : List Char → Bool
    | '_' :: '_' :: _ => true
    | _ :: cs => doubled cs
    | [] => false

/-- A whole number that fits 64 bits with a sign. -/
def whole (n : Int) : Option Value :=
  if -2 ^ 63 ≤ n ∧ n < 2 ^ 63 then some (.int n) else none

/-- A whole number in another base, from behind its mark. -/
def readBased (base : Nat) (cs : List Char) : Option (Value × List Char) := do
  let inBase (c : Char) : Bool := (Quoted.hexValue? c).any (· < base)
  let (ds, rest) ← readDigits inBase cs
  let n := ds.foldl (fun n d => n * base + (Quoted.hexValue? d).getD 0) 0
  return (← whole n, rest)

/-- The digits in front of a point or an exponent: no zero in front of others. -/
def readLeading (cs : List Char) : Option (List Char × List Char) :=
  match cs with
  | '0' :: rest => some (['0'], rest)
  | _ => readDigits Char.isDigit cs

/-- An exponent, if its mark is next. -/
def readExponent (cs : List Char) : Option (Option Int × List Char) :=
  match cs with
  | mark :: rest =>
    if mark = 'e' ∨ mark = 'E' then do
      let (down, rest) := match rest with
        | '+' :: r => (false, r)
        | '-' :: r => (true, r)
        | r => (false, r)
      let (ds, rest) ← readDigits Char.isDigit rest
      let k : Int := DateTime.value ds
      return (some (if down then -k else k), rest)
    else some (none, cs)
  | [] => some (none, [])

/-- A floating-point number. One that is too large is refused, but stands for null with a minus
sign. -/
def finishFloat (negative : Bool) (ds : List Char) (e : Int) : Option Value :=
  match Binary64.ofDecimal? negative (DateTime.value ds) e with
  | some x => some (.float x)
  | none => if negative then some .null else none

/-- A number from behind its sign. -/
def readNumber (negative : Bool) (cs : List Char) : Option (Value × List Char) :=
  match cs with
  | 'i' :: 'n' :: 'f' :: rest => some (.null, rest)
  | 'n' :: 'a' :: 'n' :: rest => some (.null, rest)
  | _ => do
    let (ds, rest) ← readLeading cs
    match rest with
    | '.' :: more =>
      let (fraction, more) ← readDigits Char.isDigit more
      let (e, more) ← readExponent more
      return (← finishFloat negative (ds ++ fraction) (e.getD 0 - fraction.length), more)
    | _ =>
      match ← readExponent rest with
      | (some e, more) => return (← finishFloat negative ds e, more)
      | (none, more) =>
        let n : Int := DateTime.value ds
        return (← whole (if negative then -n else n), more)

/-! ## Values -/

/-- A scalar value. -/
def readScalar (cs : List Char) : Option (Value × List Char) :=
  match cs with
  | '"' :: _ | '\'' :: _ => (readText cs).map fun (s, rest) => (.str s, rest)
  | 't' :: 'r' :: 'u' :: 'e' :: rest => some (.bool true, rest)
  | 'f' :: 'a' :: 'l' :: 's' :: 'e' :: rest => some (.bool false, rest)
  | '0' :: 'x' :: rest => readBased 16 rest
  | '0' :: 'o' :: rest => readBased 8 rest
  | '0' :: 'b' :: rest => readBased 2 rest
  | '+' :: rest => readNumber false rest
  | '-' :: rest => readNumber true rest
  | c :: _ =>
    if DateTime.beginsDate cs || DateTime.beginsTime cs then
      (DateTime.read cs).map fun (s, rest) => (.object [(dateTimeKey, .str s)], rest)
    else if c.isDigit || c == 'i' || c == 'n' then readNumber false cs
    else none
  | [] => none

mutual

/-- A value, with fewer than `depth` containers around what it holds. The fuel bounds the values
read. -/
def readValue (depth fuel : Nat) (cs : List Char) : Option (Value × List Char) :=
  match fuel, cs with
  | 0, _ => none
  | fuel + 1, '[' :: rest =>
    match depth with
    | 0 => none
    | depth + 1 => readItems depth fuel [] rest
  | fuel + 1, '\x7b' :: rest =>
    match depth with
    | 0 => none
    | depth + 1 =>
      match skipBlanks rest with
      | '\x7d' :: rest => some (.object [], rest)
      | rest => readPairs depth fuel [] rest
  | _ + 1, cs => readScalar cs

/-- The items of an array, from behind its bracket or a comma; a comma may stand behind the last. -/
def readItems (depth fuel : Nat) (items : List Value) (cs : List Char) :
    Option (Value × List Char) :=
  match fuel with
  | 0 => none
  | fuel + 1 =>
    match skipGap false cs with
    | ']' :: rest => some (.list items.reverse, rest)
    | cs => do
      let (v, rest) ← readValue depth fuel cs
      match skipGap false rest with
      | ',' :: rest => readItems depth fuel (v :: items) rest
      | ']' :: rest => return (.list (v :: items).reverse, rest)
      | _ => none

/-- The keys of an inline table, from behind its brace or a comma; all on one line. -/
def readPairs (depth fuel : Nat) (entries : Entries) (cs : List Char) :
    Option (Value × List Char) :=
  match fuel with
  | 0 => none
  | fuel + 1 => do
    let ((path, key), rest) ← readKey (depthLimit - 1) [] cs
    let rest ← DateTime.expect '=' rest
    let (v, rest) ← readValue depth fuel (skipBlanks rest)
    let entries ← entries.define path key v
    match skipBlanks rest with
    | ',' :: rest => readPairs depth fuel entries rest
    | '\x7d' :: rest => return (.object (Node.toFields entries), rest)
    | _ => none

end

/-! ## Documents -/

/-- A header, from behind its first bracket, to the end of its line. -/
def readHeader (d : Draft) (cs : List Char) : Option (Draft × List Char) :=
  match cs with
  | '[' :: rest => do
    let ((path, key), rest) ← readKey (depthLimit - 1) [] rest
    match rest with
    | ']' :: ']' :: rest => return (← d.openListed (path ++ [key]), ← endLine rest)
    | _ => none
  | _ => do
    let ((path, key), rest) ← readKey (depthLimit - 1) [] cs
    match rest with
    | ']' :: rest => return (← d.openTable (path ++ [key]), ← endLine rest)
    | _ => none

/-- A key with its value, to the end of its line. -/
def readPair (d : Draft) (cs : List Char) : Option (Draft × List Char) := do
  let ((path, key), rest) ← readKey (depthLimit - 1) [] cs
  let rest ← DateTime.expect '=' rest
  let (v, rest) ← readValue (depthLimit - 1) (rest.length + 1) (skipBlanks rest)
  let rest ← endLine rest
  return (← d.define path key v, rest)

/-- The lines of a document. Every line takes at least one character, so the fuel suffices. -/
def readDocument : Nat → Draft → List Char → Option Draft
  | 0, _, _ => none
  | fuel + 1, d, cs =>
    match skipBlanks cs with
    | [] => some d
    | '#' :: rest =>
      match endLine ('#' :: rest) with
      | some rest => readDocument fuel d rest
      | none => none
    | '[' :: rest =>
      match readHeader d rest with
      | some (d, rest) => readDocument fuel d rest
      | none => none
    | rest =>
      match lineEnd? rest with
      | some rest => readDocument fuel d rest
      | none =>
        match readPair d rest with
        | some (d, rest) => readDocument fuel d rest
        | none => none

/-- Read a whole text. A byte order mark in front is left out. -/
def parse (text : String) : Option Value :=
  let cs := text.toList
  let cs := match cs with
    | '\uFEFF' :: rest => rest
    | _ => cs
  (readDocument (cs.length + 1) .empty cs).bind Draft.finish

end CliGen.Toml
