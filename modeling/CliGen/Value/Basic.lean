import CliGen.Decimal.Binary64

/-!
# Description values

The neutral value that every input format is read into, and that templates are filled from. Fields
of an object keep the order in which they were first written; `put` replaces in place, so a repeated
key keeps its first position and its last value.
-/

namespace CliGen

/-- A document of nested lists and objects over scalars. Whole numbers and floating-point numbers
are different values, also when they denote the same number. -/
inductive Value where
  | null
  | bool (b : Bool)
  | int (n : Int)
  | float (x : Binary64)
  | str (s : String)
  | list (items : List Value)
  | object (fields : List (String × Value))
  deriving Inhabited

/-- The fields of an object in declaration order. -/
abbrev Fields := List (String × Value)

namespace Fields

/-- The value of a key. -/
def get? (key : String) : Fields → Option Value
  | [] => none
  | (k, v) :: rest => if k = key then some v else get? key rest

/-- Set a key: in place if it is there, at the end if not. -/
def put (key : String) (value : Value) : Fields → Fields
  | [] => [(key, value)]
  | (k, v) :: rest => if k = key then (k, value) :: rest else (k, v) :: put key value rest

/-- The value of a key whose value is not null. -/
def present? (fields : Fields) (key : String) : Option Value :=
  match fields.get? key with
  | some .null => none
  | other => other

/-- Set every key of a second object, in its order. -/
def extend (fields extra : Fields) : Fields := extra.foldl (fun acc kv => put kv.1 kv.2 acc) fields

/-- Fields in the order of first occurrence, each with its last value. -/
def ofPairs (pairs : List (String × Value)) : Fields := extend [] pairs

/-- A field that is put is found under its key, and the others stay. -/
theorem get?_put (fields : Fields) (key other : String) (value : Value) :
    (fields.put key value).get? other = if key = other then some value else fields.get? other := by
  induction fields with
  | nil => simp [put, get?]
  | cons kv rest ih =>
    obtain ⟨k, v⟩ := kv
    unfold put
    split
    next h => subst h; by_cases h' : k = other <;> simp [get?, h']
    next h =>
      by_cases h' : k = other <;> simp [get?, h', ih]
      intro h''
      exact absurd (h'.trans h''.symm) h

end Fields

namespace Value

/-- The value of a key of an object; nothing for any other value. -/
def get? (v : Value) (key : String) : Option Value :=
  match v with
  | .object fields => Fields.get? key fields
  | _ => none

/-- The value of a key, null when it is missing. -/
def field (v : Value) (key : String) : Value := (v.get? key).getD .null

/-- The text of a string value. -/
def str? : Value → Option String
  | .str s => some s
  | _ => none

/-- The items of a list value. -/
def list? : Value → Option (List Value)
  | .list items => some items
  | _ => none

/-- The fields of an object value. -/
def object? : Value → Option Fields
  | .object fields => some fields
  | _ => none

/-- Whether the value is the truth value true. -/
def isTrue : Value → Bool
  | .bool b => b
  | _ => false

/-- Neither null nor a list nor an object. -/
def isScalar : Value → Bool
  | .bool _ | .int _ | .float _ | .str _ => true
  | _ => false

/-- The text of a key, empty unless its value is a string. -/
def textAt (v : Value) (key : String) : String := (v.field key).str?.getD ""

/-- Whether the value of a key is the truth value true. -/
def trueAt (v : Value) (key : String) : Bool := (v.field key).isTrue

/-- The items of a key, none unless its value is a list. -/
def itemsAt (v : Value) (key : String) : List Value := (v.field key).list?.getD []

/-- The kind of a value, as error texts name it. -/
def kind : Value → String
  | .null => "null"
  | .bool _ => "boolean"
  | .int _ | .float _ => "number"
  | .str _ => "string"
  | .list _ => "list"
  | .object _ => "mapping"

/-- Equality of scalars. Floating-point numbers are compared by value, and a list or an object
equals nothing. -/
def scalarEq : Value → Value → Bool
  | .null, .null => true
  | .bool a, .bool b => a == b
  | .int a, .int b => a == b
  | .float a, .float b => a.sameValue b
  | .str a, .str b => a == b
  | _, _ => false

/-- A list of texts as a value. -/
def strs (texts : List String) : Value := .list (texts.map .str)

/-- An optional value, null when it is absent. -/
def ofOption : Option Value → Value
  | some v => v
  | none => .null

/-- An object with the fields of both objects, those of the second set last. A value that is no
object is left as it is. -/
def extend (base extra : Value) : Value :=
  match base, extra with
  | .object fields, .object more => .object (Fields.extend fields more)
  | other, _ => other

end Value

end CliGen
