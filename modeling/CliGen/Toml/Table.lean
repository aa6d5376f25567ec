import CliGen.Value.Basic

/-!
# Tables under construction

A settings text defines its tables piece by piece: by headers, by dotted keys and by lists of
tables. `Node` remembers how each table came to be, because that decides what may still be added to
it:

* a table that only occurs on the way to another is implicit, and may be opened by a header once;
* a table made by dotted keys can be extended by dotted keys only;
* a table opened by a header, and every finished value, is closed to dotted keys.

All operations answer `none` when a definition is refused.
-/

namespace CliGen.Toml

/-- What a key stands for so far. The elements of `tables` are tables, the last one still open. -/
inductive Node where
  | value (v : Value)
  | table (implicit dotted : Bool) (entries : List (String × Node))
  | tables (elements : List Node)

/-- The keys of a table in order. -/
abbrev Entries := List (String × Node)

namespace Entries

/-- What a key stands for. -/
def get? (key : String) : Entries → Option Node
  | [] => none
  | (k, n) :: rest => if k = key then some n else get? key rest

/-- Replace what a key stands for, or add the key at the end. -/
def put (key : String) (node : Node) : Entries → Entries
  | [] => [(key, node)]
  | (k, n) :: rest => if k = key then (k, node) :: rest else (k, n) :: put key node rest

/-- Leave out a key. -/
def erase (key : String) (entries : Entries) : Entries := entries.filter (·.1 != key)

/-- Change the table at a path. Missing tables on the way are made; `byDots` tells whether dotted
keys make the way. The change is told whether dotted keys made the table that it changes. -/
def updateAt {α : Type} (byDots : Bool) (change : Bool → Entries → Option (α × Entries)) :
    List String → Bool → Entries → Option (α × Entries)
  | [], dotted, entries => change dotted entries
  | key :: path, _, entries =>
    match entries.get? key with
    | none => do
      let (a, sub) ← updateAt byDots change path byDots []
      return (a, entries ++ [(key, .table true byDots sub)])
    | some (.value _) => none
    | some (.table implicit dotted sub) =>
      if byDots && !implicit then none
      else do
        let (a, sub) ← updateAt byDots change path dotted sub
        return (a, entries.put key (.table implicit dotted sub))
    | some (.tables elements) =>
      match elements.getLast? with
      | some (.table implicit dotted sub) => do
        let (a, sub) ← updateAt byDots change path dotted sub
        return (a, entries.put key (.tables (elements.dropLast ++ [.table implicit dotted sub])))
      | _ => none

/-- Give a dotted key a value. -/
def define (path : List String) (key : String) (v : Value) (entries : Entries) : Option Entries :=
  (updateAt true (fun dotted entries =>
    if dotted == path.isEmpty || (entries.get? key).isSome then none
    else some ((), entries ++ [(key, .value v)])) path false entries).map (·.2)

end Entries

mutual

/-- The value of a finished node. -/
def Node.toValue : Node → Value
  | .value v => v
  | .table _ _ entries => .object (Node.toFields entries)
  | .tables elements => .list (Node.toValues elements)

/-- The fields of a finished table. -/
def Node.toFields : List (String × Node) → List (String × Value)
  | [] => []
  | (k, n) :: rest => (k, n.toValue) :: Node.toFields rest

/-- The values of finished nodes. -/
def Node.toValues : List Node → List Value
  | [] => []
  | n :: rest => n.toValue :: Node.toValues rest

end

/-! ## The document -/

/-- A document as it is read: the finished part, and the table that the last header opened. -/
structure Draft where
  root : Entries
  path : List String
  listed : Bool
  entries : Entries

namespace Draft

/-- Before the first header the keys of the root itself are read. -/
def empty : Draft := ⟨[], [], false, []⟩

/-- Put the open table in its place. A table that the way to another one made is replaced by the
open table, which took over its keys. -/
def close (d : Draft) : Option Entries :=
  match d.path.getLast? with
  | none => some d.entries
  | some key =>
    let place (_ : Bool) (entries : Entries) : Option (Unit × Entries) :=
      let table := Node.table false false d.entries
      if d.listed then
        match entries.get? key with
        | none => some ((), entries ++ [(key, .tables [table])])
        | some (.tables elements) => some ((), entries.put key (.tables (elements ++ [table])))
        | some _ => none
      else
        match entries.get? key with
        | none => some ((), entries ++ [(key, table)])
        | some (.table true _ _) => some ((), entries.put key table)
        | some _ => none
    (Entries.updateAt false place d.path.dropLast false d.root).map (·.2)

/-- Open the table of a header. The keys of an implicit table move to the end of its parent. -/
def openTable (path : List String) (d : Draft) : Option Draft := do
  let root ← d.close
  let key ← path.getLast?
  let take (_ : Bool) (entries : Entries) : Option (Entries × Entries) :=
    match entries.get? key with
    | none => some ([], entries)
    | some (.table true false sub) => some (sub, entries.erase key)
    | some _ => none
  let (sub, root) ← Entries.updateAt false take path.dropLast false root
  return ⟨root, path, false, sub⟩

/-- Open the next table of a list of tables. -/
def openListed (path : List String) (d : Draft) : Option Draft := do
  let root ← d.close
  let key ← path.getLast?
  let reserve (_ : Bool) (entries : Entries) : Option (Unit × Entries) :=
    match entries.get? key with
    | none => some ((), entries ++ [(key, .tables [])])
    | some (.tables _) => some ((), entries)
    | some _ => none
  let (_, root) ← Entries.updateAt false reserve path.dropLast false root
  return ⟨root, path, true, []⟩

/-- Give a key of the open table a value. -/
def define (path : List String) (key : String) (v : Value) (d : Draft) : Option Draft :=
  (d.entries.define path key v).map fun entries => { d with entries }

/-- The value of the finished document. -/
def finish (d : Draft) : Option Value := d.close.map fun root => .object (Node.toFields root)

end Draft

end CliGen.Toml
