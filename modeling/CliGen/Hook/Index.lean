import CliGen.Hook.Resolver
import CliGen.Problem

/-!
# Hooks of a whole tree

One binding for each command, in the order of the walk. The names that stubs define are pairwise
different: where a name is shared and one of its paths is long, all its commands take the name of
their whole path, and a name that is shared after that is a problem.
-/

namespace CliGen.Hook

/-- A defined name, and the paths of the commands that define it. -/
structure Group where
  name : String
  paths : List (List String)

namespace Group

/-- Add a path to the group of its name, which comes last if it is new. -/
def add (name : String) (path : List String) : List Group → List Group
  | [] => [⟨name, [path]⟩]
  | g :: rest =>
    if g.name = name then { g with paths := g.paths ++ [path] } :: rest else g :: add name path rest

/-- The groups of some bindings: names in the order of their first use, paths in the order given. -/
def ofBindings (bs : List Binding) : List Group :=
  bs.foldl (fun groups b => add b.definedName b.path groups) []

/-- A name that is shared, by one path that is longer than the threshold at least, is given up. -/
def isGivenUp (threshold : Nat) (g : Group) : Bool :=
  decide (2 ≤ g.paths.length) && g.paths.any (threshold < ·.length)

end Group

/-- The bindings of a tree's commands, in the order of the walk. -/
structure Index where
  bindings : List Binding

namespace Index

/-- Use the names of the whole paths in place of the names that are given up. -/
def settle (r : Resolver) (bs : List Binding) : List Binding :=
  let givenUp := (Group.ofBindings bs).filter (Group.isGivenUp r.threshold)
  bs.map fun b =>
    if givenUp.any (·.name == b.definedName) then { b with canonical := r.naming.callable b.path }
    else b

/-- The bindings of a tree. -/
def build (t : CommandTree) (r : Resolver) : Outcome Index :=
  let settled := settle r (t.walk.map r.bindingFor)
  match (Group.ofBindings settled).find? (2 ≤ ·.paths.length) with
  | some ⟨name, first :: second :: _⟩ => .error (.hookNameCollision name first second)
  | _ => .ok ⟨settled⟩

/-- The binding of a path. -/
def get? (i : Index) (path : List String) : Option Binding := i.bindings.find? (·.path == path)

end Index

end CliGen.Hook
