import CliGen.Template.Basic

/-!
# Writing templates down

Short forms for the pieces of templates that are written in Lean.
-/

namespace CliGen.Template

/-- A field of the value in scope. -/
def field (key : String) : Arg := .ref (.keys 0 [key])

/-- A field of the value one scope further out. -/
def outer (key : String) : Arg := .ref (.keys 1 [key])

/-- The value in scope. -/
def this : Arg := .ref .this

/-- Text as it stands. -/
def text (s : String) : Piece := .text s

/-- Whole lines of text. -/
def lines (ls : List String) : Piece := .text (String.join (ls.map (· ++ "\n")))

/-- A field of the value in scope is shown. -/
def put (key : String) : Piece := .shown (.keys 0 [key])

/-- A field of the value one scope further out is shown. -/
def putOuter (key : String) : Piece := .shown (.keys 1 [key])

/-- A helper is called. -/
def call (helper : String) (arg : Arg) : Piece := .call helper [arg]

/-- A template that is left out unless something is true. -/
def whenTrue (subject : Arg) (body : Template) : Piece := .choose true subject body []

/-- One of two templates. -/
def either (subject : Arg) (body otherwise : Template) : Piece :=
  .choose true subject body otherwise

/-- A template for each item. -/
def forEach (subject : Arg) (body : Template) : Piece := .each subject body []

end CliGen.Template
