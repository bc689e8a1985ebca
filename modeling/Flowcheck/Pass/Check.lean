import Flowcheck.Oracle.Verifier
import Flowcheck.Oracle.Writer
import Flowcheck.Pass.Basic

/-!
# Passes over control flow

Two passes. A *check* verifies a bundle against an oracle: it writes a header and then one line with
the verdict, or the header alone when there is no verdict. The *printer* writes the oracle of each
function under a line with the function's size.
-/

namespace Flowcheck

/-! ## Checks -/

/-- What a check compares with, and how it presents itself. -/
structure Check where
  label : String := "CfgTransPass"
  name : String := "cfg-trans"
  description : String := "Verify CFG edges against an expected (trans ...) literal"
  expected : Oracle.Literal := .text "(trans)"
  blockCount? : Option Int := none
  function? : Option String := none

namespace Check

/-- The line that a check starts with. -/
def header (c : Check) : String := c.name ++ ": " ++ c.description

/-- The verifier behind a check. -/
def verifier (c : Check) : Oracle.Verifier := ⟨c.expected, c.blockCount?, c.function?⟩

/-- The line of a negative verdict. -/
def failLine (c : Check) (message : String) : String := "FAIL: " ++ c.name ++ ": " ++ message

/-- The line of a positive verdict. -/
def passLine (c : Check) (edges : List Oracle.ExpectedEdge) (functions : List String) : String :=
  "PASS: " ++ c.name ++ " " ++ Oracle.Verdict.extent edges functions

/-- Looks up the function that the check is restricted to when no function was compared. -/
def demandFunction (c : Check) (b : Ir.Bundle) (checked : List String) : Except Ir.Error Unit :=
  match c.function? with
  | none => .ok ()
  | some name => if checked.isEmpty then (fun _ ↦ ()) <$> b.function name else .ok ()

/-- Runs the check. -/
def execute (c : Check) (b : Ir.Bundle) : Outcome :=
  match c.verifier.edges with
  | .error e => { lines := [c.header], fault? := some e }
  | .ok edges =>
    match c.verifier.walk b {} with
    | (.error (.failed failure), p) =>
      ⟨[c.header, c.failLine failure.message], p.log, some (.failed failure)⟩
    | (.error e, p) => ⟨[c.header], p.log, some e⟩
    | (.ok (), p) =>
      match c.demandFunction b p.checked with
      | .error e => ⟨[c.header], p.log, some (.graph e)⟩
      | .ok () => ⟨[c.header, c.passLine edges p.checked], p.log, none⟩

/-- The check as a pass. -/
def pass (c : Check) : Pass := ⟨c.label, c.name, c.description, c.execute⟩

end Check

/-! ## The printer -/

namespace Printer

/-- The line above a function's oracle. -/
def sizeLine (f : Ir.Function) : String :=
  s!"; {f.name}: {f.body.blocks.length} blocks, {f.body.numEdges} edges"

/-- Writes the oracles of functions one after the other. -/
def printAll : List Ir.Function → Outcome
  | [] => {}
  | f :: rest =>
    match Oracle.format 72 f with
    | .error e => { lines := [sizeLine f], fault? := some (.value e) }
    | .ok text => Outcome.followedBy { lines := [sizeLine f, text] } (printAll rest)

/-- Writes the oracles of the named functions, or of all. The names are looked up first. -/
def execute (names? : Option (List String)) (b : Ir.Bundle) : Outcome :=
  match names? with
  | none => printAll b.functions
  | some names =>
    match names.mapM b.function with
    | .error e => { fault? := some (.graph e) }
    | .ok functions => printAll functions

/-- The printer as a pass. -/
def pass (names? : Option (List String)) : Pass where
  label := "CfgPrinterPass"
  name := "print-cfg"
  description := "Print each function's CFG as a (trans (edge ...)) literal"
  execute := execute names?

end Printer

end Flowcheck
