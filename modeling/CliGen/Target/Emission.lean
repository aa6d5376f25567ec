import CliGen.Artifact.Assembly
import CliGen.Target.Basic

/-!
# Generating a target

The commands of a tree are visited with a list of visits that are left and, for every open command,
the code of those of its children that are finished. A command is left after its children, so its
code holds theirs. The first problem ends the run, and what was generated before it is dropped; the
paths of the commands that were generated are kept, also where a problem ended the run.
-/

namespace CliGen

/-- The beginning or the end of a command. -/
inductive Visit where
  | enter (c : Command)
  | leave (c : Command)

/-- A bound for the visits that a visit leads to. -/
def Visit.weight : Visit → Nat
  | enter c => 2 * c.size
  | leave _ => 1

/-- The visits that begin commands, in order. -/
def Visit.ofCommands (cs : List Command) : List Visit := cs.map enter

/-- What came of a run, and the paths of the commands that were generated, the last one first. -/
abbrev Logged (α : Type) := Outcome α × List (List String)

namespace Target

/-- The code of a command that is left. -/
def leave (t : Target) (scene : Scene) (c : Command) (children : List Fragment) :
    Outcome Fragment :=
  match scene.bindings.get? c.path with
  | none => .error (.render t.id c.path "no hook binding computed for command" none)
  | some b => (t.emit scene c b children).mapError (·.intoRender t.id c.path)

/-- Each command below is visited twice, on the way down and on the way up. -/
theorem weight_ofCommands (cs : List Command) :
    ((Visit.ofCommands cs).map Visit.weight).sum = 2 * sizeAll cs := by
  induction cs with
  | nil => rfl
  | cons c cs ih =>
    simp only [Visit.ofCommands, List.map_cons, List.sum_cons, Visit.weight, sizeAll] at *
    omega

/-- Make the visits that are left. `finished` holds the code that is finished below every open
command, the innermost first, and at the top. -/
def visit (t : Target) (scene : Scene) (log : List (List String))
    (finished : List (List Fragment)) : List Visit → Logged (List Fragment)
  | [] =>
    match finished with
    | fragments :: _ => (.ok fragments, log)
    | [] => (.error (.internal "emitter collector stack underflow"), log)
  | .enter c :: rest =>
    if scene.options.maxDepth ≤ c.depth then
      (.error (.depthLimitExceeded c.path scene.options.maxDepth), log)
    else visit t scene log ([] :: finished) (Visit.ofCommands c.subcommands ++ .leave c :: rest)
  | .leave c :: rest =>
    match finished with
    | children :: outer =>
      match leave t scene c children, outer with
      | .error p, _ => (.error p, log)
      | .ok fragment, siblings :: further =>
        visit t scene (c.path :: log) ((siblings ++ [fragment]) :: further) rest
      | .ok _, [] => (.error (.internal "emitter collector stack underflow"), log)
    | [] => (.error (.internal "emitter collector stack underflow"), log)
termination_by vs => (vs.map Visit.weight).sum
decreasing_by
  · simp only [List.map_append, List.sum_append, List.map_cons, List.sum_cons, weight_ofCommands,
      Visit.weight, c.size_eq]
    omega
  · simp [Visit.weight]

/-- The code of the commands at the top, each with all that lies below it. -/
def emitTree (t : Target) (scene : Scene) : Logged (List Fragment) :=
  visit t scene [] [[]] (Visit.ofCommands scene.tree.commands)

/-- What a target sees of a tree. -/
def scene (t : Target) (tree : CommandTree) (options : RenderOptions) : Outcome Scene := do
  let bindings ← Hook.Index.build tree (.make t.naming options.hookThreshold)
  return { tree, bindings, engine := t.engine, options, root := t.root tree }

/-- The files from the code of the commands. `count` says how many were generated. -/
def finish (t : Target) (scene : Scene) (count : Nat) (fragments : List Fragment) :
    Outcome (List Artifact) := do
  let nodes := scene.tree.nodeCount
  if count != nodes then
    .error (.render t.id [] s!"emitted {count} of {nodes} commands" none)
  let artifacts ← (t.compose scene fragments).mapError (·.intoRender t.id [])
  Artifact.assemble t.id artifacts

/-- The files of a tree, and what was generated on the way to them. -/
def renderLogged (t : Target) (tree : CommandTree) (options : RenderOptions) :
    Logged (List Artifact) :=
  match t.scene tree options with
  | .error p => (.error p, [])
  | .ok scene =>
    match t.emitTree scene with
    | (.error p, log) => (.error p, log)
    | (.ok fragments, log) => (t.finish scene log.length fragments, log)

/-- The files of a tree. -/
def render (t : Target) (tree : CommandTree) (options : RenderOptions) : Outcome (List Artifact) :=
  (t.renderLogged tree options).1

end Target

end CliGen
