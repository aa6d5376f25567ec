import CliGen.Text.Blank

/-!
# Written paths

Paths as users and settings write them: names with slashes in between, from the top of the storage
or from the working directory.
-/

namespace CliGen.Path

/-- Whether a path starts at the top of the storage. -/
def isAbsolute (path : String) : Bool := path.toList.head? = some '/'

/-- A path seen from a directory. An absolute path is the same from everywhere. -/
def join (directory path : String) : String :=
  if isAbsolute path then path
  else if directory == "" || directory.toList.getLast? = some '/' then directory ++ path
  else directory ++ "/" ++ path

/-- The steps that lead along a path from where it starts. -/
def steps (path : String) : List String :=
  let names := Text.splitAt '/' path
  if isAbsolute path then names.drop 1 else names

/-- Whether a step stays where it is. -/
def isIdle (step : String) : Bool := step == "" || step == "."

/-- Leave out the last steps of a path as long as they are idle. Steps are given last first; a point
that starts a path counts as a name. -/
def dropIdle : List String → List String
  | [] => []
  | ["."] => ["."]
  | step :: rest => if isIdle step then dropIdle rest else step :: rest

/-- The directory that holds what a path leads to, as it is written in the path. -/
def parent? (path : String) : Option String :=
  match dropIdle (Text.splitAt '/' path).reverse with
  | [] => none
  | _ :: above =>
    match dropIdle above with
    | [] => some (if isAbsolute path then "/" else "")
    | kept => some ("/".intercalate kept.reverse)

/-- The name that a path ends in. -/
def fileName? (path : String) : Option String :=
  match dropIdle (Text.splitAt '/' path).reverse with
  | [] | "." :: _ | ".." :: _ => none
  | name :: _ => some name

/-- What stands behind the last point of the name that a path ends in. There is nothing behind a
point that starts a name. -/
def extension (path : String) : String :=
  match fileName? path with
  | none => ""
  | some name =>
    match (Text.splitAt '.' name).reverse with
    | [] | [_] | [_, ""] => ""
    | behind :: _ => behind

end CliGen.Path
