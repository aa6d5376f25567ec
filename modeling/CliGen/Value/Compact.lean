import CliGen.Decimal.Shortest
import CliGen.Value.Basic
import CliGen.Value.Quoted

/-!
# Compact text of a value

Values on one line without spaces, in declaration order, with quoted texts and the shortest spelling
of numbers.
-/

namespace CliGen.Value

mutual

/-- The compact text of a value. -/
def compact : Value → String
  | .null => "null"
  | .bool b => if b then "true" else "false"
  | .int n => toString n
  | .float x => x.text
  | .str s => Quoted.quote s
  | .list items => "[" ++ ",".intercalate (compactItems items) ++ "]"
  | .object fields => "\x7b" ++ ",".intercalate (compactFields fields) ++ "\x7d"

/-- The compact texts of the items of a list. -/
def compactItems : List Value → List String
  | [] => []
  | v :: rest => compact v :: compactItems rest

/-- The compact texts of the fields of an object. -/
def compactFields : List (String × Value) → List String
  | [] => []
  | (k, v) :: rest => (Quoted.quote k ++ ":" ++ compact v) :: compactFields rest

end

/-- The text a value is shown as where texts are expected: a string is itself. -/
def display : Value → String
  | .str s => s
  | v => v.compact

end CliGen.Value
