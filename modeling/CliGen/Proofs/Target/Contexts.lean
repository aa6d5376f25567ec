import CliGen.Proofs.Template.Shape
import CliGen.Target.Context

/-!
# Shapes of what stands for a command line

The values that stand for commands, parameters and actions have the fields that templates rely on,
whatever the command and its binding are, and the value that stands for the command line has its
global options.
-/

namespace CliGen.Wording

open Template Shape

/-- What templates rely on in an argument. -/
def argumentShape : Shape := .fields [("required", .truth)]

/-- What templates rely on in an option: its short form may be missing. -/
def optionShape : Shape := .fields [("required", .truth), ("short", .optional .text)]

/-- What templates rely on in an action of a managed command. -/
def actionShape : Shape := .fields [("candidates", .list .any)]

/-- What templates rely on in whatever takes arguments and options. -/
def parametersShape : Shape :=
  .fields [("arguments", .list argumentShape), ("options", .list optionShape)]

/-- What templates rely on in a command. -/
def commandShape : Shape :=
  .fields [("arguments", .list argumentShape), ("options", .list optionShape),
    ("description", .text), ("path", .list .any), ("aliases", .list .any),
    ("candidates", .list .any), ("controller_candidates", .list .any),
    ("actions", .list actionShape)]

/-- What templates rely on in a command line. -/
def rootShape : Shape := .fields [("global_options", .list optionShape)]

private theorem holds_strs (texts : List String) : (Shape.list .any).Holds (.strs texts) :=
  .list fun v _ => .any v

private theorem holds_map {α : Type} {s : Shape} {f : α → Value} (h : ∀ a, s.Holds (f a))
    (as : List α) : (Shape.list s).Holds (.list (as.map f)) := by
  refine .list fun v hv => ?_
  obtain ⟨a, -, rfl⟩ := List.mem_map.1 hv
  exact h a

/-- Templates are given arguments of this shape. -/
theorem holds_argument (w : Wording) (a : Argument) : argumentShape.Holds (w.argument a) := by
  refine .fields (List.forall_iff_forall_mem.1 ?_)
  exact .truth a.required

/-- Templates are given options of this shape. -/
theorem holds_option (w : Wording) (cliName : String) (path : List String) (o : NamedOption) :
    optionShape.Holds (w.option cliName path o) := by
  refine .fields (List.forall_iff_forall_mem.1 ?_)
  refine ⟨.truth o.required, ?_⟩
  change (Shape.optional .text).Holds (.ofOption (o.short.map fun c => .str (.singleton c)))
  cases o.short with
  | none => exact .absent _
  | some c => exact .given (.text _)

/-- Templates are given actions of this shape. -/
theorem holds_action (c : Command) (a : Hook.Action) : actionShape.Holds (action c a) := by
  refine .fields (List.forall_iff_forall_mem.1 ?_)
  exact holds_strs a.candidates

/-- What stands for a command has the shape that templates rely on. -/
theorem holds_command (w : Wording) (cliName : String) (c : Command) (b : Hook.Binding) :
    commandShape.Holds (w.command cliName c b) := by
  refine .fields (List.forall_iff_forall_mem.1 ?_)
  refine ⟨?_, ?_, ?_, ?_, ?_, ?_, ?_, ?_⟩
  · exact holds_map w.holds_argument c.arguments
  · exact holds_map (w.holds_option cliName c.path) c.options
  · exact .text c.description
  · exact holds_strs c.path
  · exact holds_strs c.aliases
  · exact holds_strs b.candidates
  · exact holds_strs ((b.controller.map (·.candidates)).getD [])
  · exact holds_map (holds_action c) ((b.controller.map (·.actions)).getD [])

/-- What stands for a command line has the shape that templates rely on. -/
theorem holds_root (w : Wording) (t : CommandTree) : rootShape.Holds (w.root t) := by
  refine .fields (List.forall_iff_forall_mem.1 ?_)
  exact holds_map (w.holds_option t.cliName []) t.globalOptions

/-- A command takes arguments and options. -/
theorem holds_parameters {v : Value} (h : commandShape.Holds v) : parametersShape.Holds v := by
  refine .fields (List.forall_iff_forall_mem.1 ?_)
  exact ⟨h.field "arguments", h.field "options"⟩

/-- So does a command line, whose options are the global ones. -/
theorem holds_globals {root : Value} (h : rootShape.Holds root) :
    parametersShape.Holds
      (.object [("arguments", .list []), ("options", root.field "global_options")]) := by
  refine .fields (List.forall_iff_forall_mem.1 ?_)
  exact ⟨.list (by simp), h.field "global_options"⟩

end CliGen.Wording
