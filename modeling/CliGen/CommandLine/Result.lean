import CliGen.Problem

/-!
# Results

What a run leaves behind on the console, and how a failure is reported.
-/

namespace CliGen.CommandLine

/-- Why a run fails, and what is behind that, the nearest first. -/
structure Failure where
  message : String
  causes : List String
  deriving DecidableEq

namespace Failure

/-- A problem as a failure. -/
def ofProblem (p : Problem) : Failure := ⟨p.message, p.causes⟩

/-- A problem behind a failure that is told first. -/
def inContext (message : String) (p : Problem) : Failure := ⟨message, p.message :: p.causes⟩

/-- A failure without a problem behind it. -/
def plain (message : String) : Failure := ⟨message, []⟩

/-- A text with its first line behind a mark and all others below its first line. -/
def indent (mark : String) (text : String) : String :=
  mark ++ text.replace "\n" ("\n" ++ String.ofList (List.replicate mark.length ' '))

/-- A cause behind its number. -/
def numbered (n : Nat) (cause : String) : String :=
  let digits := toString n
  indent (String.ofList (List.replicate (5 - digits.length) ' ') ++ digits ++ ": ") cause

/-- The report of a failure. Causes are numbered if there are several. -/
def report (f : Failure) : String :=
  let error := "Error: " ++ f.message
  match f.causes with
  | [] => error
  | [cause] => error ++ "\n\nCaused by:\n" ++ indent "    " cause
  | causes =>
    error ++ "\n\nCaused by:\n" ++ "\n".intercalate (causes.mapIdx numbered)

end Failure

/-- What a run leaves behind: the exit code, the lines of its output, and a failure to report. -/
structure Result where
  code : Nat
  lines : List String
  failure : Option Failure

namespace Result

/-- A run that did what it was asked for. -/
def success (lines : List String) : Result := ⟨0, lines, none⟩

/-- A run that failed after some output. -/
def failed (lines : List String) (f : Failure) : Result := ⟨1, lines, some f⟩

/-- A run whose arguments make no sense. -/
def misuse : Result := ⟨2, [], none⟩

/-- A run that broke off. -/
def broken : Result := ⟨101, [], none⟩

/-- The output of a run. -/
def output (r : Result) : String := String.join (r.lines.map (· ++ "\n"))

end Result

end CliGen.CommandLine
