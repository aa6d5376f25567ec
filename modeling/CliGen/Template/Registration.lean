import CliGen.Template.Engine
import CliGen.Template.Reader

/-!
# Registering templates by their texts

The templates of a target are texts before they are read. An engine is made of the texts of a target
unless one of them is no template.
-/

namespace CliGen.Template

/-- Put a line in front of others. Guillemets stand for the double braces of tags, and a line that
ends with an arrow goes on in the next one. -/
def putLine (rest : List Char) : List Char → List Char
  | [] => '\n' :: rest
  | ['↩'] => rest
  | '«' :: cs => '\x7b' :: '\x7b' :: putLine rest cs
  | '»' :: cs => '\x7d' :: '\x7d' :: putLine rest cs
  | c :: cs => c :: putLine rest cs

/-- The characters of lines. -/
def joinLines (css : List (List Char)) : List Char :=
  css.foldr (fun cs rest => putLine rest cs) []

/-- The text of a template, by its lines. -/
def spell (ls : List String) : String := String.ofList (joinLines (ls.map String.toList))

namespace Engine

/-- Add a template by its text, in place of any of the same name. -/
def registerText (e : Engine) (name text : String) : Outcome Engine :=
  match parse text with
  | some t => .ok (e.register name t)
  | none => .error (.templateSyntax name)

/-- The engine of a target, made of the texts of its templates. -/
def ofTexts (helpers : Helpers) (texts : List (String × String)) : Outcome Engine :=
  texts.foldlM (fun e entry => e.registerText entry.1 entry.2) (make helpers [])

end Engine

end CliGen.Template
