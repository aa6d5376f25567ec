import CliGen.Artifact.Basic
import CliGen.Target.Context
import CliGen.Target.Fragment
import CliGen.Template.Engine

/-!
# Targets

What it takes to generate command lines for a language: names, templates, the code of one command
from the code of those below it, and the files from the code of all commands.
-/

namespace CliGen

/-- What a run of a target is told. -/
structure RenderOptions where
  hookThreshold : Nat
  maxDepth : Nat

/-- What a target sees while it generates. -/
structure Scene where
  tree : CommandTree
  bindings : Hook.Index
  engine : Template.Engine
  options : RenderOptions
  /-- What stands for the command line in templates. -/
  root : Value

/-- A target. -/
structure Target where
  id : String
  displayName : String
  naming : NamingConvention
  helpers : Template.Helpers
  templates : List (String × Template)
  /-- What stands for the command line in templates. -/
  root : CommandTree → Value
  /-- Components and the paths of their files, in order. -/
  layout : CommandTree → List (String × String)
  /-- The code of a command from the code of those below it. -/
  emit : Scene → Command → Hook.Binding → List Fragment → Outcome Fragment
  /-- The files from the code of the commands at the top. -/
  compose : Scene → List Fragment → Outcome (List Artifact)

namespace Target

/-- The engine with a target's helpers and templates. -/
def engine (t : Target) : Template.Engine := .make t.helpers t.templates

/-- The path of a component's file in a layout. -/
def pathOf (layout : CommandTree → List (String × String)) (tree : CommandTree)
    (component : String) : Outcome String :=
  match (layout tree).lookup component with
  | some path => .ok path
  | none => .error (.internal s!"output layout has no '{component}' entry")

end Target

end CliGen
