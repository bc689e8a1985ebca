import Flowcheck.Fault
import Flowcheck.Ir.Consistency
import Flowcheck.Log

/-!
# Passes

A pass looks at a bundle and reports. Its whole effect is an outcome: the lines it wrote, its log,
and the fault that ended it early, if one did. A pass is a function of the bundle alone, so passes
cannot disturb each other or the bundle.
-/

namespace Flowcheck

/-- What running a pass leaves behind. -/
structure Outcome where
  lines : List String := []
  log : List LogEntry := []
  fault? : Option Fault := none

namespace Outcome

/-- The lines as text, each with its end. -/
def text (o : Outcome) : String := String.join (o.lines.map (· ++ "\n"))

/-- The outcome of what comes after `o` ended well. -/
def followedBy (o o' : Outcome) : Outcome := ⟨o.lines ++ o'.lines, o.log ++ o'.log, o'.fault?⟩

end Outcome

/-- A pass: its class for inspection, its name, a description, and what it does. -/
structure Pass where
  label : String
  name : String
  description : String := ""
  execute : Ir.Bundle → Outcome

namespace Pass

/-- The pass as messages show it. -/
def shown (p : Pass) : String := "<" ++ p.label ++ " '" ++ p.name ++ "'>"

/-- Writing an attribute of a pass: its name and description are fixed. -/
def writeAttribute (key : String) : Except Report Unit :=
  if key = "name" ∨ key = "description" then
    .error (.plain .fixedAttribute ("pass " ++ key ++ " is fixed by the class"))
  else .ok ()

end Pass

end Flowcheck
