/-!
# Sources

Every value and every symbol remembers where it was declared, so that a conflict
can point at both declarations.
-/

namespace AppResources

/-- A place in an input: its path, and a line if one is known. -/
structure Source where
  /-- The path as the caller gave it. -/
  path : String := ""
  /-- The line in that input. -/
  line : Option Nat := none
  deriving DecidableEq, Inhabited

namespace Source

/-- The same input, at a line. -/
def atLine (s : Source) (line : Nat) : Source := { s with line := some line }

/-- The written form: `path`, or `path:line`. -/
def text (s : Source) : String :=
  match s.line with
  | some line => s.path ++ ":" ++ toString line
  | none => s.path

/-- By path; within one path the whole input comes first, then by line. -/
instance : Ord Source := ⟨compareLex (compareOn path) (compareOn line)⟩

end Source

end AppResources
