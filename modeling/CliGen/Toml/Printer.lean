import CliGen.Value.Basic
import CliGen.Value.Quoted

/-!
# Writing TOML

Settings are written as tables of one level. A text is written in the first of five forms that holds
it unchanged, or else with escapes, so what is read back is the text itself.
-/

namespace CliGen.Toml

/-- What decides in which form a text can be written. -/
structure TextTraits where
  /-- The longest run of single quotes. -/
  singles : Nat
  /-- The longest run of double quotes. -/
  doubles : Nat
  backslash : Bool
  newline : Bool
  /-- Whether there is a control character other than tab and newline. -/
  control : Bool

namespace TextTraits

/-- The length of the longest run of a character, from behind a run of length `n`. -/
def longestRun (c : Char) (n : Nat) : List Char → Nat
  | [] => n
  | d :: rest => if d = c then longestRun c (n + 1) rest else max n (longestRun c 0 rest)

/-- Whether a character has no form of its own in a text. -/
def isControl (c : Char) : Bool :=
  (c.toNat < 0x20 || c.toNat == 0x7f) && c != '\t' && c != '\n'

/-- The traits of a text. -/
def of (cs : List Char) : TextTraits where
  singles := longestRun '\'' 0 cs
  doubles := longestRun '"' 0 cs
  backslash := cs.contains '\\'
  newline := cs.contains '\n'
  control := cs.any isControl

end TextTraits

/-- The escape of a character that has no form of its own. -/
def escape (c : Char) : List Char :=
  match c with
  | '\x08' => ['\\', 'b']
  | '\t' => ['\\', 't']
  | '\n' => ['\\', 'n']
  | '\x0c' => ['\\', 'f']
  | '\r' => ['\\', 'r']
  | '"' => ['\\', '"']
  | '\\' => ['\\', '\\']
  | c => '\\' :: 'u' :: '0' :: '0' :: [hexDigit (c.toNat / 16), hexDigit (c.toNat % 16)]
where
  /-- A digit to the base sixteen, in capital letters. -/
  hexDigit (n : Nat) : Char := if n < 10 then Char.ofNat (48 + n) else Char.ofNat (55 + n)

/-- The content of a text between double quotes on one line. -/
def escapeLine : List Char → List Char
  | [] => []
  | c :: rest =>
    if c = '"' || c = '\\' || c = '\t' || c = '\n' || TextTraits.isControl c then
      escape c ++ escapeLine rest
    else c :: escapeLine rest

/-- The content of a text between threefold double quotes, behind a run of `n` double quotes. A
third quote in a row is escaped. -/
def escapeLines (n : Nat) : List Char → List Char
  | [] => []
  | c :: rest =>
    if c = '"' then
      if n < 2 then c :: escapeLines (n + 1) rest else escape c ++ escapeLines 0 rest
    else if c = '\\' || c = '\t' || TextTraits.isControl c then escape c ++ escapeLines 0 rest
    else c :: escapeLines 0 rest

/-- A text as it is written. A newline that follows threefold quotes does not belong to the text. -/
def quoteChars (cs : List Char) : List Char :=
  let t := TextTraits.of cs
  let opening := if t.newline then ['\n'] else []
  let doubles := ['"', '"', '"']
  let singles := ['\'', '\'', '\'']
  if !t.control && !t.backslash && t.doubles = 0 && !t.newline then '"' :: escapeLine cs ++ ['"']
  else if !t.control && t.singles = 0 && !t.newline then '\'' :: cs ++ ['\'']
  else if !t.control && !t.backslash && t.doubles ≤ 2 then
    doubles ++ opening ++ escapeLines 0 cs ++ doubles
  else if !t.control && t.singles ≤ 2 then singles ++ opening ++ cs ++ singles
  else if t.newline then doubles ++ opening ++ escapeLines 0 cs ++ doubles
  else '"' :: escapeLine cs ++ ['"']

/-- A text as it is written. -/
def quote (s : String) : String := String.ofList (quoteChars s.toList)

/-- The largest whole number. -/
def maxInt : Nat := 2 ^ 63 - 1

/-- A list as it is written: with several items on a line of its own each. -/
def listText : List String → String
  | [] => "[]"
  | [item] => "[" ++ item ++ "]"
  | items => "[\n" ++ String.join (items.map fun item => "    " ++ item ++ ",\n") ++ "]"

/-- A setting. -/
inductive Setting where
  | bool (b : Bool)
  | nat (n : Nat)
  | text (s : String)
  | texts (items : List String)

/-- A setting as it is written. A number that is too large cannot be written. -/
def Setting.text? : Setting → Option String
  | bool b => some (if b then "true" else "false")
  | nat n => if n ≤ maxInt then some (toString n) else none
  | text s => some (quote s)
  | texts items => some (listText (items.map quote))

/-- The settings of a table as they are written. -/
def table? (name : String) (settings : List (String × Setting)) : Option String := do
  let lines ← settings.mapM fun (key, setting) => do
    return key ++ " = " ++ (← setting.text?) ++ "\n"
  return "[" ++ name ++ "]\n" ++ String.join lines

/-- Tables as they are written, with an empty line between them. -/
def tables? (tables : List (String × List (String × Setting))) : Option String := do
  return "\n".intercalate (← tables.mapM fun (name, settings) => table? name settings)

end CliGen.Toml
