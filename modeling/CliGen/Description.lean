import CliGen.Artifact.Writer
import CliGen.Input
import CliGen.Tree.Build

/-!
# Descriptions

Files that describe a command line.
-/

namespace CliGen

variable {m : Type → Type} [Monad m] [Files m]

/-- The text of a file. -/
def readText (path operation : String) : ExceptT Problem m String := do
  let bytes ← onFile path operation (Files.read path)
  match String.fromUTF8? bytes with
  | some text => return text
  | none => throw (.ofFile path operation .notText)

/-- The value in a file, whose extension tells the format. -/
def readDescription (path : String) : ExceptT Problem m Value := do
  unless ← ExceptT.lift (Files.has path) do throw (.fileNotFound path)
  let format ← MonadExcept.ofExcept (InputFormat.ofPath path)
  let text ← readText path "read CLI description"
  MonadExcept.ofExcept (format.read text)

/-- The command tree that a file describes. -/
def readTree (path : String) (maxDepth : Nat) : ExceptT Problem m CommandTree := do
  let document ← readDescription path
  MonadExcept.ofExcept (CommandTree.build maxDepth document)

end CliGen
