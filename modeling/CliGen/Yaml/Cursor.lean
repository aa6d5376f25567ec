/-!
# A place in a text of lines

A cursor is the rest of a text together with its distance from the start, its line and its column,
all in characters. Lines end at a carriage return, a line feed, both together, U+0085, U+2028 or
U+2029.
-/

namespace CliGen.Yaml

/-- The characters that end a line. -/
def isBreak (c : Char) : Bool :=
  c == '\n' || c == '\r' || c == '\u0085' || c == '\u2028' || c == '\u2029'

/-- The characters that separate within a line. -/
def isBlank (c : Char) : Bool := c == ' ' || c == '\t'

/-- The characters of anchors and of handles of tags. -/
def isWordChar (c : Char) : Bool := c.isAlphanum || c == '_' || c == '-'

/-- The rest of a text, and where it begins. -/
structure Cursor where
  rest : List Char
  index : Nat
  line : Nat
  column : Nat

namespace Cursor

/-- The start of a text. -/
def start (cs : List Char) : Cursor := ⟨cs, 0, 0, 0⟩

/-- The character some places ahead. -/
def at? (c : Cursor) (n : Nat) : Option Char := c.rest[n]?

/-- Whether the text begins here with some characters. -/
def begins (c : Cursor) (word : List Char) : Bool := word.isPrefixOf c.rest

/-- Whether the text ends here or a line does. -/
def atBreak (c : Cursor) (n : Nat) : Bool := (c.at? n).all isBreak

/-- Whether a blank stands here, or the text or a line ends. -/
def atGap (c : Cursor) (n : Nat) : Bool := (c.at? n).all fun d => isBlank d || isBreak d

/-- Whether a character stands here. -/
def sees (c : Cursor) (d : Char) : Bool := c.at? 0 == some d

/-- Go on by some characters of a line. -/
def skip (c : Cursor) (n : Nat) : Cursor :=
  { c with rest := c.rest.drop n, index := c.index + n, column := c.column + n }

/-- Go on to the next line if a line ends here. Answers the line end as it counts in a text: a line
feed, but U+2028 and U+2029 stay themselves. -/
def nextLine (c : Cursor) : List Char × Cursor :=
  match c.rest with
  | '\r' :: '\n' :: rest => (['\n'], ⟨rest, c.index + 2, c.line + 1, 0⟩)
  | d :: rest =>
    if isBreak d then
      ([if d == '\u2028' || d == '\u2029' then d else '\n'], ⟨rest, c.index + 1, c.line + 1, 0⟩)
    else ([], c)
  | [] => ([], c)

/-- The characters of a class that stand here, and the place behind them. -/
def takeWhile (c : Cursor) (p : Char → Bool) : List Char × Cursor :=
  let taken := c.rest.takeWhile p
  (taken, c.skip taken.length)

/-- The place behind the characters of a class. -/
def skipWhile (c : Cursor) (p : Char → Bool) : Cursor := (c.takeWhile p).2

/-- Whether a line begins here with a mark between documents. -/
def atDocumentMark (c : Cursor) : Bool :=
  c.column == 0 && (c.begins ['-', '-', '-'] || c.begins ['.', '.', '.']) && c.atGap 3

end Cursor

end CliGen.Yaml
