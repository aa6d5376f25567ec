import CliGen.Naming
import CliGen.Tree.Basic

/-!
# Names of hooks

The names under which a generated command line looks for the user's code, the most specific first.
They depend on the command's path, the target's naming convention and the length from which paths
are abbreviated, and on nothing else.
-/

namespace CliGen.Hook

/-- The steps of the search for a hook, in order. -/
inductive Strategy where
  /-- All segments. -/
  | exact
  /-- The first and the last segment, from three segments on. -/
  | abbreviated
  /-- The last two segments, or the only one. -/
  | namespaced
  /-- The callable that takes every command. -/
  | generic
  deriving DecidableEq

namespace Strategy

/-- All steps in the order in which they are tried. -/
def chain : List Strategy := [exact, abbreviated, namespaced, generic]

/-- The segments that a step keeps of a path, if it applies to the path and names segments at
all. -/
def segments? (path : List String) : Strategy → Option (List String)
  | exact => if path.isEmpty then none else some path
  | abbreviated =>
    match path with
    | first :: _ :: last :: rest => some [first, (last :: rest).getLast (by simp)]
    | _ => none
  | namespaced => if path.isEmpty then none else some (path.drop (path.length - 2))
  | generic => none

end Strategy

/-- The callables that are tried for one action of a managed command. -/
structure Action where
  name : String
  candidates : List String

/-- The controller of a managed command: the one that its stub defines, those that are tried, and
what is tried for each action where none is found. -/
structure Controller where
  canonical : String
  candidates : List String
  actions : List Action

/-- What is bound to a command. -/
structure Binding where
  path : List String
  /-- The callable that the command's stub defines. -/
  canonical : String
  candidates : List String
  /-- For managed commands only. -/
  controller : Option Controller

namespace Binding

def isManaged (b : Binding) : Bool := b.controller.isSome

/-- The name that the command's stub defines: the controller of a managed command, the callable of
any other. -/
def definedName (b : Binding) : String :=
  match b.controller with
  | some c => c.canonical
  | none => b.canonical

end Binding

/-- How many segments a path may have before its callable is abbreviated, unless it is set. -/
def defaultThreshold : Nat := 3

/-- A target's convention, and the longest path whose callable is not abbreviated. -/
structure Resolver where
  naming : NamingConvention
  threshold : Nat

namespace Resolver

/-- The resolver of a convention, with a threshold of one at least. -/
def make (naming : NamingConvention) (threshold : Nat) : Resolver := ⟨naming, max threshold 1⟩

/-- The callable that one step tries. -/
def candidate? (r : Resolver) (path : List String) : Strategy → Option String
  | .generic => some r.naming.generic
  | step => (step.segments? path).map r.naming.callable

/-- The callables that are tried for a path, each once. -/
def candidates (r : Resolver) (path : List String) : List String :=
  (Strategy.chain.filterMap (r.candidate? path)).eraseDups

/-- The callable that the stub of a command defines: abbreviated where the path is longer than the
threshold and has segments to leave out. -/
def canonical (r : Resolver) (path : List String) : String :=
  let step : Strategy := if r.threshold < path.length then .abbreviated else .exact
  r.naming.callable ((step.segments? path).getD path)

/-- The controllers that are tried for a path, each once. -/
def controllerCandidates (r : Resolver) (path : List String) : List String :=
  (Strategy.chain.filterMap fun step =>
    (step.segments? path).map r.naming.controller).eraseDups

/-- The controller of a managed command. -/
def controller (r : Resolver) (path : List String) : Controller where
  canonical := r.naming.controller path
  candidates := r.controllerCandidates path
  actions := Lifecycle.actions.map fun action => ⟨action, r.candidates (path ++ [action])⟩

/-- What is bound to a path. -/
def binding (r : Resolver) (path : List String) (lifecycle : Lifecycle) : Binding where
  path := path
  canonical := r.canonical path
  candidates := r.candidates path
  controller := if lifecycle.isManaged then some (r.controller path) else none

/-- What is bound to a command, before it is compared with other commands. -/
def bindingFor (r : Resolver) (c : Command) : Binding := r.binding c.path c.lifecycle

end Resolver

end CliGen.Hook
