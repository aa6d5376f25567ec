import CliGen.CommandLine.Request
import CliGen.Text.Blank

/-!
# Help

The page that tells what a command is for, how it is called and what it takes: its subcommands, its
operands and its options, each in a table of two columns. Long texts go on in the second column.
-/

namespace CliGen.CommandLine.Help

open Invocation

/-- The number of characters that a line holds. -/
def pageWidth : Nat := 100

/-- A text with blanks behind it, up to a width. -/
def padRight (width : Nat) (text : String) : String :=
  text ++ String.ofList (List.replicate (width - text.length) ' ')

/-- Words in lines, after a line that has begun. A line ends where the next word would not fit. -/
def fillFrom (width : Nat) (line : String) : List String → List String
  | [] => [line]
  | word :: rest =>
    if width < line.length + 1 + word.length then line :: fillFrom width word rest
    else fillFrom width (line ++ " " ++ word) rest

/-- The lines of a text. A word that is wider than a line has a line of its own. -/
def breakText (width : Nat) (text : String) : List String :=
  match Text.splitAt ' ' text with
  | [] => []
  | word :: rest => fillFrom width word rest

/-- A table: names, and what is told of them in a column behind the longest name. -/
def table (rows : List (String × String)) : List String :=
  let longest := (rows.map (·.1.length)).foldl max 0
  rows.flatMap fun (name, about) =>
    match breakText (pageWidth - (longest + 4)) about with
    | [] => ["  " ++ name]
    | first :: more =>
      ("  " ++ padRight (longest + 2) name ++ first) :: more.map (padRight (longest + 4) "" ++ ·)

/-- A table under a heading, after an empty line; nothing without rows. -/
def listed (heading : String) (rows : List (String × String)) : List String :=
  if rows.isEmpty then [] else "" :: heading :: table rows

/-- An option: its letter, its name and what stands for its value. -/
def optionName (o : OptionRule) : String :=
  let letter := match o.letter with
    | some c => "-" ++ String.singleton c ++ ", "
    | none => "    "
  let value := if o.takesValue then s!" <{o.name.map Char.toUpper}>" else ""
  letter ++ "--" ++ o.name ++ value

/-- What is told of an option. `named` is the value of the environment variable that names the file
with the settings. -/
def optionAbout (named : Option String) (o : OptionRule) : String :=
  match o.environment with
  | some name => o.about ++ " [env: " ++ name ++ "=" ++ named.getD "" ++ "]"
  | none => o.about

/-- Whether a command is the one that tells help. -/
def isHelp (path : List String) : Bool := path.getLast? = some "help"

/-- The operands of a command as its page shows them. -/
def shownOperands (path : List String) : List OperandRule :=
  if isHelp path then [⟨"[COMMAND]...", true, "Print help for the subcommand(s)"⟩]
  else (rule path).operands

/-- The options of a command as its page shows them. -/
def shownOptions (path : List String) : List OptionRule :=
  if isHelp path then [] else (rule path).options

/-- How a command is called. -/
def usage (path : List String) : String :=
  let options := if (shownOptions path).isEmpty then [] else ["[OPTIONS]"]
  let subcommand := if (subcommands path).isEmpty then [] else ["<COMMAND>"]
  " ".intercalate ("Usage: cli-forge" :: path ++ options ++ (shownOperands path).map (·.mark) ++
    subcommand)

/-- The page of the command at a path. -/
def page (named : Option String) (path : List String) : List String :=
  [about path, "", usage path] ++
  listed "Commands:" ((subcommands path).map fun name => (name, about (path ++ [name]))) ++
  listed "Arguments:" ((shownOperands path).map fun o => (o.mark, o.about)) ++
  listed "Options:" ((shownOptions path).map fun o => (optionName o, optionAbout named o))

end CliGen.CommandLine.Help
