/-!
# Fragments

The code of a command and of all commands below it, in named sections: a section holds text that
ends up in one place of one file.
-/

namespace CliGen

/-- Sections in the order of their first use, with their code. -/
structure Fragment where
  path : List String
  sections : List (String × String)

namespace Fragment

/-- No code yet. -/
def empty (path : List String) : Fragment := ⟨path, []⟩

/-- Add code to the section of a name, which comes last if it is new. -/
def pushTo (name code : String) : List (String × String) → List (String × String)
  | [] => [(name, code)]
  | (n, c) :: rest => if n = name then (n, c ++ code) :: rest else (n, c) :: pushTo name code rest

/-- Add code to a section. Nothing is added for empty code, not even the section. -/
def push (name code : String) (f : Fragment) : Fragment :=
  if code.isEmpty then f else { f with sections := pushTo name code f.sections }

/-- Add all code of other fragments, in their order. -/
def absorb (f : Fragment) (children : List Fragment) : Fragment :=
  children.foldl (fun f child => child.sections.foldl (fun f s => f.push s.1 s.2) f) f

/-- The code of a section. -/
def code (f : Fragment) (name : String) : String := (f.sections.lookup name).getD ""

/-- The code of a section in several fragments. -/
def join (fs : List Fragment) (name : String) : String := String.join (fs.map (·.code name))

end Fragment

end CliGen
