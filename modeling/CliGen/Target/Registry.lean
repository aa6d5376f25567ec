import CliGen.Target.Emission

/-!
# Known targets

Targets by identifier, in the order of their registration. A target that is registered again takes
the place of the one before.
-/

namespace CliGen

/-- Targets by identifier. -/
abbrev Registry := List (String × Target)

namespace Registry

/-- Register a target. -/
def register (id : String) (t : Target) : Registry → Registry
  | [] => [(id, t)]
  | (i, u) :: rest => if i = id then (i, t) :: rest else (i, u) :: register id t rest

/-- The identifiers in order. -/
def ids (r : Registry) : List String := r.map (·.1)

/-- Whether an identifier is registered. -/
def has (r : Registry) (id : String) : Bool := (r.lookup id).isSome

/-- The target of an identifier. -/
def get (r : Registry) (id : String) : Outcome Target :=
  match r.lookup id with
  | some t => .ok t
  | none => .error (.unsupportedTarget id r.ids)

/-- The files of a tree for a target. -/
def render (r : Registry) (tree : CommandTree) (options : RenderOptions) (id : String) :
    Outcome (List Artifact) := do
  (← r.get id).render tree options

end Registry

end CliGen
