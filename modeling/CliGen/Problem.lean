import CliGen.Instances

/-!
# What can go wrong

One constructor for each cause, and the text, the category and the reach of each. A fatal problem
ends the run of every target; any other is confined to the target that met it.
-/

namespace CliGen

/-- A command path as texts show it. -/
def displayPath (path : List String) : String :=
  if path.isEmpty then "<root>" else " ".intercalate path

/-- What kind of failure the operating system tells of. -/
inductive SystemFault where
  | notFound
  | permissionDenied
  | alreadyExists
  | other
  deriving DecidableEq

/-- A failure that the operating system tells of. -/
structure SystemError where
  fault : SystemFault
  text : String
  deriving DecidableEq

/-- The causes of failure. `render` may wrap the problem that a renderer met, and the problems of
files may tell what the system answered. -/
inductive Problem where
  | schema (path : List String) (reason : String)
  | duplicateCommand (path : List String)
  | depthLimitExceeded (path : List String) (limit : Nat)
  | hookNameCollision (name : String) (first path : List String)
  | unsupportedTarget (target : String) (available : List String)
  | render (target : String) (path : List String) (message : String) (cause : Option Problem)
  | artifactPath (path reason : String)
  | template (message : String)
  | templateNotFound (name : String)
  | templateSyntax (template : String)
  | config (message : String) (cause : Option String)
  | invalidConfigValue (key value : String)
  | unknownConfigKey (key : String)
  | json (line column : Nat) (fault : String)
  | yaml
  | toml
  | unsupportedFormat (path extension : String)
  | io (path operation : String) (cause : Option String)
  | fileNotFound (path : String)
  | internal (message : String)
  | other (message : String) (cause : Option String)

namespace Problem

/-- The text of a problem. -/
def message : Problem → String
  | schema path reason => s!"Schema error at '{displayPath path}': {reason}"
  | duplicateCommand path => s!"Duplicate command at '{displayPath path}'"
  | depthLimitExceeded path limit =>
    s!"Command '{displayPath path}' exceeds the maximum nesting depth of {limit}"
  | hookNameCollision name first path =>
    s!"Commands '{displayPath first}' and '{displayPath path}' both define hook '{name}'"
  | unsupportedTarget target available =>
    let known := ", ".intercalate available
    s!"Unsupported target '{target}' (available: {known})"
  | render target path message _ =>
    s!"Render failed for target '{target}' at '{displayPath path}': {message}"
  | artifactPath path reason => s!"Invalid artifact path '{path}': {reason}"
  | template message => s!"Template error: {message}"
  | templateNotFound name => s!"Template not found: {name}"
  | templateSyntax name => s!"Template syntax error in '{name}': unbalanced tags"
  | config message _ => s!"Configuration error: {message}"
  | invalidConfigValue key value => s!"Invalid configuration value for '{key}': {value}"
  | unknownConfigKey key => s!"Unknown configuration key: {key}"
  | json line column _ => s!"JSON error: syntax error at line {line} column {column}"
  | yaml => "YAML parsing error: not a document"
  | toml => "TOML parsing error: not a document"
  | unsupportedFormat path extension => s!"Unsupported input format '{extension}' for '{path}'"
  | io path operation _ => s!"File I/O error for '{path}': {operation}"
  | fileNotFound path => s!"File not found: {path}"
  | internal message => s!"Internal error: {message}"
  | other message _ => message

/-- The group a problem belongs to, after the work it interrupts. -/
def category : Problem → String
  | schema .. => "schema"
  | duplicateCommand .. | depthLimitExceeded .. | hookNameCollision .. => "tree"
  | unsupportedTarget .. => "target"
  | render .. | artifactPath .. => "render"
  | template .. | templateNotFound .. | templateSyntax .. => "template"
  | config .. | invalidConfigValue .. | unknownConfigKey .. => "config"
  | json .. | yaml | toml | unsupportedFormat .. => "input"
  | io .. | fileNotFound .. => "io"
  | internal .. | other .. => "internal"

/-- Whether a problem ends the run of every target. -/
def isFatal : Problem → Bool
  | schema .. | duplicateCommand .. | depthLimitExceeded .. | unsupportedTarget .. => true
  | _ => false

/-- The command that a problem points at. -/
def commandPath? : Problem → Option (List String)
  | schema path _ | duplicateCommand path | depthLimitExceeded path _
  | hookNameCollision _ _ path | render _ path _ _ => some path
  | _ => none

/-- The texts of the causes behind a problem, the nearest first. -/
def causes : Problem → List String
  | render _ _ _ (some cause) => cause.message :: cause.causes
  | config _ (some cause) | io _ _ (some cause) | other _ (some cause) => [cause]
  | json line column fault => [s!"{fault} at line {line} column {column}"]
  | _ => []

/-- The problem as the failure of rendering a command for a target. One that already is such a
failure keeps its own target and path. -/
def intoRender (target : String) (path : List String) : Problem → Problem
  | render t p m c => render t p m c
  | p => render target path p.message (some p)

/-- A failure of the system, where nothing is known but what the system tells. -/
def ofSystem (e : SystemError) : Problem :=
  let operation := match e.fault with
    | .notFound => "file not found"
    | .permissionDenied => "permission denied"
    | .alreadyExists => "already exists"
    | .other => "I/O operation"
  io "unknown" operation (some e.text)

/-- A failure of the system in an operation on a file. -/
def ofFile (path operation : String) (e : SystemError) : Problem := io path operation (some e.text)

/-- A failure of the system in some other operation. -/
def inContext (operation : String) (e : SystemError) : Problem :=
  other s!"{operation}: {e.text}" (some e.text)

end Problem

/-- What a step answers that may meet a problem. -/
abbrev Outcome := Except Problem

end CliGen
