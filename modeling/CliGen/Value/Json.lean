import CliGen.Value.Basic
import CliGen.Value.Quoted

/-!
# Reading JSON

`Json.parse` reads one value. What it refuses it refuses at a position, and the position is part of
the answer: a line, and a column that counts bytes. Containers nest at most 127 deep.

A number without fraction and exponent is a whole number if it fits 64 bits (signed when it is
negative); every other number is floating-point, made from as many leading digits as fit 64 bits and
a power of ten, rounding after each of the two steps.
-/

namespace CliGen.Json

/-- Why a text is refused. -/
inductive Fault where
  | endOfList
  | endOfObject
  | endOfText
  | endOfValue
  | noColon
  | noListEnd
  | noObjectEnd
  | noWord
  | noValue
  | badEscape
  | badNumber
  | tooLargeNumber
  | controlCharacter
  | keyIsNoText
  | loneSurrogate
  | trailingComma
  | trailingCharacters
  | cutEscape
  | tooDeep
  deriving DecidableEq

/-- The text of a fault. -/
def Fault.message : Fault → String
  | endOfList => "EOF while parsing a list"
  | endOfObject => "EOF while parsing an object"
  | endOfText => "EOF while parsing a string"
  | endOfValue => "EOF while parsing a value"
  | noColon => "expected \x60:\x60"
  | noListEnd => "expected \x60,\x60 or \x60]\x60"
  | noObjectEnd => "expected \x60,\x60 or \x60\x7d\x60"
  | noWord => "expected ident"
  | noValue => "expected value"
  | badEscape => "invalid escape"
  | badNumber => "invalid number"
  | tooLargeNumber => "number out of range"
  | controlCharacter => "control character (\\u0000-\\u001F) found while parsing a string"
  | keyIsNoText => "key must be a string"
  | loneSurrogate => "lone leading surrogate in hex escape"
  | trailingComma => "trailing comma"
  | trailingCharacters => "trailing characters"
  | cutEscape => "unexpected end of hex escape"
  | tooDeep => "recursion limit exceeded"

/-- Where reading stopped: in front of `rest`, or some bytes into it. -/
structure Stop where
  fault : Fault
  rest : List Char
  beyond : Nat

/-- The outcome of reading: readers answer with what they read and the rest of the text. -/
abbrev Outcome := Except Stop

/-- Stop in front of the rest. -/
def stopAt {α : Type} (fault : Fault) (rest : List Char) : Outcome (α × List Char) :=
  .error ⟨fault, rest, 0⟩

/-- Stop behind the first byte of the rest. -/
def stopPast {α : Type} (fault : Fault) (rest : List Char) : Outcome (α × List Char) :=
  .error ⟨fault, rest, 1⟩

/-- Stop behind the first byte of the rest, or at the end, which is a fault of its own. -/
def stopPastOr {α : Type} (atEnd fault : Fault) (rest : List Char) : Outcome (α × List Char) :=
  if rest.isEmpty then stopAt atEnd [] else stopPast fault rest

/-- The number of bytes of a text. -/
def byteCount (cs : List Char) : Nat := (cs.map Char.utf8Size).sum

/-- A place in a text: the line counts from one, the column counts the bytes before it. -/
structure Position where
  line : Nat
  column : Nat
  deriving DecidableEq, Repr

/-- The place some bytes further into a text. -/
def Position.advance (p : Position) : Nat → List Char → Position
  | 0, _ => p
  | _, [] => p
  | n + 1, c :: cs =>
    if n + 1 < c.utf8Size then { p with column := p.column + (n + 1) }
    else
      (if c = '\n' then ⟨p.line + 1, 0⟩ else { p with column := p.column + c.utf8Size } : Position)
        |>.advance (n + 1 - c.utf8Size) cs

/-- Leave out the blanks between tokens. -/
def skipBlanks (cs : List Char) : List Char :=
  cs.dropWhile fun c => c == ' ' || c == '\n' || c == '\t' || c == '\r'

/-! ## Numbers -/

/-- The largest whole number. -/
def maxNat : Nat := 2 ^ 64 - 1

/-- The largest exponent that is computed with. -/
def maxExponent : Nat := 2 ^ 31 - 1

/-- The value of a decimal digit. -/
def digit (c : Char) : Nat := c.toNat - 48

/-- Append digits to a number as long as it stays within a limit. -/
def digitsUpTo (limit : Nat) : Nat → List Char → Nat × List Char
  | n, [] => (n, [])
  | n, c :: cs =>
    if c.isDigit && decide (n * 10 + digit c ≤ limit) then digitsUpTo limit (n * 10 + digit c) cs
    else (n, c :: cs)

/-- A power of ten that floating-point numbers reach. -/
def powerOfTen (k : Nat) : Binary64 := (Binary64.ofDecimal? false 1 k).getD (.zero false)

/-- The number `± n · 10 ^ e`, rounded once for `n` and once more for each power of ten. Dividing
twice by `10 ^ 308` leaves nothing of a number of 64 bits. -/
def ofParts? (negative : Bool) (n : Nat) (e : Int) : Option Binary64 := do
  let x ← Binary64.ofDecimal? negative n 0
  if n = 0 then return x
  if e > 308 then none
  if 0 ≤ e then x.mul? (powerOfTen e.toNat)
  else if -308 ≤ e then x.div? (powerOfTen (-e).toNat)
  else
    let y ← x.div? (powerOfTen 308)
    if -616 ≤ e then y.div? (powerOfTen (-e - 308).toNat) else return .zero negative

/-- A floating-point number, or a stop behind a number that is too large. -/
def finishFloat (negative : Bool) (n : Nat) (e : Int) (rest : List Char) :
    Outcome (Value × List Char) :=
  match ofParts? negative n e with
  | some x => .ok (.float x, rest)
  | none => stopAt .tooLargeNumber rest

/-- The rest of a number from behind its exponent mark. -/
def readExponent (negative : Bool) (n : Nat) (e : Int) (cs : List Char) :
    Outcome (Value × List Char) :=
  let (down, cs) := match cs with
    | '+' :: r => (false, r)
    | '-' :: r => (true, r)
    | r => (false, r)
  match cs with
  | c :: _ =>
    if c.isDigit then
      let (k, rest) := digitsUpTo maxExponent 0 cs
      match rest with
      | d :: more =>
        if d.isDigit then
          if n ≠ 0 && !down then stopAt .tooLargeNumber more
          else .ok (.float (.zero negative), more.dropWhile Char.isDigit)
        else finishFloat negative n (if down then e - k else e + k) rest
      | [] => finishFloat negative n (if down then e - k else e + k) rest
    else stopPast .badNumber cs
  | [] => stopAt .endOfValue []

/-- The rest of a number from behind its digits `n · 10 ^ e`. -/
def readTail (negative : Bool) (n : Nat) (e : Int) (cs : List Char) : Outcome (Value × List Char) :=
  match cs with
  | 'e' :: r | 'E' :: r => readExponent negative n e r
  | r => finishFloat negative n e r

/-- The rest of a number from behind its point. Digits that no longer fit are left out. -/
def readFraction (negative : Bool) (n : Nat) (e : Int) (cs : List Char) :
    Outcome (Value × List Char) :=
  match cs with
  | [] => stopAt .endOfValue []
  | c :: _ =>
    if c.isDigit then
      let (m, rest) := digitsUpTo maxNat n cs
      readTail negative m (e - (cs.length - rest.length : Nat)) (rest.dropWhile Char.isDigit)
    else stopPast .badNumber cs

/-- A number without fraction and exponent. -/
def whole (negative : Bool) (n : Nat) : Option Value :=
  if !negative then some (.int n)
  else if 0 < n ∧ n ≤ 2 ^ 63 then some (.int (-n))
  else (Binary64.ofDecimal? true n 0).map .float

/-- The rest of a number from behind its leading digits, some of which may not have fitted. -/
def readWhole (negative : Bool) (n : Nat) (cs : List Char) : Outcome (Value × List Char) :=
  let dropped := (cs.takeWhile Char.isDigit).length
  match cs.dropWhile Char.isDigit with
  | '.' :: r => readFraction negative n dropped r
  | r =>
    match r with
    | 'e' :: _ | 'E' :: _ => readTail negative n dropped r
    | _ =>
      if dropped = 0 then
        match whole negative n with
        | some v => .ok (v, r)
        | none => stopAt .tooLargeNumber r
      else finishFloat negative n dropped r

/-- A number from behind its sign. -/
def readNumber (negative : Bool) (cs : List Char) : Outcome (Value × List Char) :=
  match cs with
  | [] => stopAt .endOfValue []
  | '0' :: rest =>
    match rest with
    | d :: _ => if d.isDigit then stopPast .badNumber rest else readWhole negative 0 rest
    | [] => readWhole negative 0 rest
  | c :: _ =>
    if c.isDigit then
      let (n, rest) := digitsUpTo maxNat 0 cs
      readWhole negative n rest
    else stopPast .badNumber cs

/-! ## Texts -/

/-- Four hexadecimal digits. -/
def readHex (cs : List Char) : Outcome (Nat × List Char) :=
  match cs with
  | a :: b :: c :: d :: rest =>
    match Quoted.hexValue? a, Quoted.hexValue? b, Quoted.hexValue? c, Quoted.hexValue? d with
    | some a, some b, some c, some d => .ok (4096 * a + 256 * b + 16 * c + d, rest)
    | _, _, _, _ => .error ⟨.badEscape, cs, 4⟩
  | _ =>
    let bytes := byteCount cs
    .error ⟨if bytes < 4 then .endOfText else .badEscape, cs, min 4 bytes⟩

/-- The character of an escape by code point, from behind its `u`. A character beyond the first
plane takes two escapes. -/
def readCodePoint (cs : List Char) : Outcome (Char × List Char) := do
  let (n, rest) ← readHex cs
  if 0xDC00 ≤ n ∧ n ≤ 0xDFFF then stopAt .loneSurrogate rest
  else if n < 0xD800 ∨ 0xDBFF < n then .ok (Char.ofNat n, rest)
  else
    match rest with
    | '\\' :: 'u' :: more =>
      let (low, rest) ← readHex more
      if low < 0xDC00 ∨ 0xDFFF < low then stopAt .loneSurrogate rest
      else .ok (Char.ofNat (0x10000 + (n - 0xD800) * 0x400 + (low - 0xDC00)), rest)
    | '\\' :: more => stopPastOr .endOfText .cutEscape more
    | more => stopPastOr .endOfText .cutEscape more

/-- The character of an escape, from behind its backslash. -/
def readEscape (cs : List Char) : Outcome (Char × List Char) :=
  match cs with
  | '"' :: rest => .ok ('"', rest)
  | '\\' :: rest => .ok ('\\', rest)
  | '/' :: rest => .ok ('/', rest)
  | 'b' :: rest => .ok ('\x08', rest)
  | 'f' :: rest => .ok ('\x0c', rest)
  | 'n' :: rest => .ok ('\n', rest)
  | 'r' :: rest => .ok ('\r', rest)
  | 't' :: rest => .ok ('\t', rest)
  | 'u' :: rest => readCodePoint rest
  | rest => stopPastOr .endOfText .badEscape rest

/-- A text from behind its opening quote to behind its closing one. The fuel bounds the characters
read, and `read` is the text so far, last character first. -/
def readText : Nat → List Char → List Char → Outcome (String × List Char)
  | 0, _, cs => stopAt .endOfText cs
  | _ + 1, _, [] => stopAt .endOfText []
  | fuel + 1, read, c :: cs =>
    if c = '"' then .ok (String.ofList read.reverse, cs)
    else if c = '\\' then
      match readEscape cs with
      | .ok (e, rest) => readText fuel (e :: read) rest
      | .error stop => .error stop
    else if c.toNat < 0x20 then stopPast .controlCharacter (c :: cs)
    else readText fuel (c :: read) cs

/-! ## Values -/

/-- Read a fixed word; stops behind the first character that differs. -/
def readWord (word : List Char) (v : Value) (cs : List Char) : Outcome (Value × List Char) :=
  match word, cs with
  | [], rest => .ok (v, rest)
  | w :: word, c :: cs => if c = w then readWord word v cs else stopPast .noWord (c :: cs)
  | _ :: _, [] => stopAt .endOfValue []

mutual

/-- A value, `depth` more containers deep at most. The fuel bounds the tokens read. -/
def readValue (depth fuel : Nat) (cs : List Char) : Outcome (Value × List Char) :=
  match fuel with
  | 0 => stopAt .tooDeep cs
  | fuel + 1 =>
    match skipBlanks cs with
    | [] => stopAt .endOfValue []
    | '"' :: rest => do
      let (s, rest) ← readText (rest.length + 1) [] rest
      .ok (.str s, rest)
    | 'n' :: rest => readWord ['u', 'l', 'l'] .null rest
    | 't' :: rest => readWord ['r', 'u', 'e'] (.bool true) rest
    | 'f' :: rest => readWord ['a', 'l', 's', 'e'] (.bool false) rest
    | '-' :: rest => readNumber true rest
    | '[' :: rest =>
      match depth with
      | 0 => stopPast .tooDeep ('[' :: rest)
      | depth + 1 => readItems depth fuel true [] rest
    | '\x7b' :: rest =>
      match depth with
      | 0 => stopPast .tooDeep ('\x7b' :: rest)
      | depth + 1 => readFields depth fuel true [] rest
    | c :: rest => if c.isDigit then readNumber false (c :: rest) else stopPast .noValue (c :: rest)

/-- The items of a list from behind its bracket or an item; `items` are those read, last one
first. -/
def readItems (depth fuel : Nat) (first : Bool) (items : List Value) (cs : List Char) :
    Outcome (Value × List Char) :=
  match fuel with
  | 0 => stopAt .tooDeep cs
  | fuel + 1 =>
    match skipBlanks cs with
    | [] => stopAt .endOfList []
    | ']' :: rest => .ok (.list items.reverse, rest)
    | c :: rest =>
      if first then do
        let (v, rest) ← readValue depth fuel (c :: rest)
        readItems depth fuel false (v :: items) rest
      else if c = ',' then
        match skipBlanks rest with
        | ']' :: rest => stopPast .trailingComma (']' :: rest)
        | [] => stopAt .endOfValue []
        | rest => do
          let (v, rest) ← readValue depth fuel rest
          readItems depth fuel false (v :: items) rest
      else stopPast .noListEnd (c :: rest)

/-- The fields of an object from behind its brace or a field. -/
def readFields (depth fuel : Nat) (first : Bool) (fields : Fields) (cs : List Char) :
    Outcome (Value × List Char) :=
  match fuel with
  | 0 => stopAt .tooDeep cs
  | fuel + 1 =>
    match skipBlanks cs with
    | [] => stopAt .endOfObject []
    | '\x7d' :: rest => .ok (.object fields, rest)
    | c :: rest =>
      if first || c = ',' then
        match (if first then c :: rest else skipBlanks rest) with
        | '"' :: rest => do
          let (key, rest) ← readText (rest.length + 1) [] rest
          match skipBlanks rest with
          | ':' :: rest =>
            let (v, rest) ← readValue depth fuel rest
            readFields depth fuel false (fields.put key v) rest
          | other => stopPastOr .endOfObject .noColon other
        | '\x7d' :: rest =>
          stopPast (if first then .keyIsNoText else .trailingComma) ('\x7d' :: rest)
        | other => stopPastOr .endOfValue .keyIsNoText other
      else stopPast .noObjectEnd (c :: rest)

end

/-- Containers nest at most this deep. -/
def maxDepth : Nat := 127

/-- Why a text is refused, and where. -/
structure Refusal where
  fault : Fault
  position : Position

/-- Read a text that holds one value and nothing else. -/
def parseChars (cs : List Char) : Except Refusal Value :=
  let outcome : Outcome (Value × List Char) := do
    let (v, rest) ← readValue maxDepth (cs.length + 1) cs
    match skipBlanks rest with
    | [] => .ok (v, [])
    | more => stopPast .trailingCharacters more
  match outcome with
  | .ok (v, _) => .ok v
  | .error stop =>
    let bytes := byteCount cs - byteCount stop.rest + stop.beyond
    .error ⟨stop.fault, Position.advance ⟨1, 0⟩ bytes cs⟩

/-- Read a text that holds one value and nothing else. -/
def parse (text : String) : Except Refusal Value := parseChars text.toList

end CliGen.Json
