/-!
# Paths

A path is written as steps between slashes. Empty steps and the step `.` say nothing and are left
out; the step `..` leads upwards. A *location* is what a path comes to: the names from the root
down, without any `..`. Locations are compared and looked up; paths are only written.
-/

namespace Flowcheck.Files

/-- A path as it is written, from the root or from the working directory. -/
structure Path where
  isAbsolute : Bool
  steps : List String
  deriving DecidableEq, Repr

/-- The names from the root down. -/
abbrev Location := List String

namespace Path

/-- Whether a step says anything. -/
def isStep (s : String) : Bool := s ≠ "" && s ≠ "."

/-- The path that a text writes. -/
def ofText (s : String) : Path := ⟨s.startsWith "/", (s.splitToList (· = '/')).filter isStep⟩

/-- The steps from the root. -/
def fromRoot (p : Path) (workingDirectory : Location) : List String :=
  if p.isAbsolute then p.steps else workingDirectory ++ p.steps

end Path

namespace Location

/-- Takes one step. There is nothing above the root. -/
def step (here : Location) (s : String) : Location :=
  if s = ".." then here.dropLast else here ++ [s]

/-- The location that steps from the root come to, whatever is there. -/
def ofSteps (steps : List String) : Location := steps.foldl step []

theorem ofSteps_append (steps : List String) (s : String) :
    ofSteps (steps ++ [s]) = step (ofSteps steps) s := by
  simp [ofSteps]

/-- A location that is written out comes to itself. -/
theorem ofSteps_eq_self {l : Location} (h : ".." ∉ l) : ofSteps l = l := by
  have (here : Location) : l.foldl step here = here ++ l := by
    induction l generalizing here with
    | nil => simp
    | cons s rest ih =>
      simp only [List.mem_cons, not_or] at h
      simp [step, Ne.symm h.1, ih h.2]
  simpa [ofSteps] using this []

/-- The location as text. -/
def text (l : Location) : String := "/" ++ "/".intercalate l

end Location

end Flowcheck.Files
