import Flowcheck.Ir.Error
import Flowcheck.Oracle.Basic

/-!
# Faults

The union of the causes that a pass may end with. A fault of the framework or of the query language
is an outcome of a run, to be recorded; any other one is a defect of the pass.
-/

namespace Flowcheck

/-! ## Reports of the query language -/

/-- The error as a report. -/
def Sexp.BuildError.report (e : BuildError) : Report := .plain .value e.message

/-- The error as a report. -/
def Sexp.ReadError.report (e : ReadError) : Report := .unreadable e.fault.message e.source?

/-- The error as a report. -/
def PatternError.report (e : PatternError) : Report := .plain .pattern e.message

/-! ## Failed comparisons -/

namespace Oracle

/-- A graph that does not have the expected shape. -/
inductive Failure where
  | blockCount (function : String) (expected : Int) (actual : Nat)
  | missingEdge (function : String) (edge : ExpectedEdge) (successors : List String)
  deriving DecidableEq, Repr

/-- What differs. -/
def Failure.message : Failure → String
  | .blockCount function expected actual =>
    s!"function {Text.quoted function} has {actual} basic blocks, expected {expected}"
  | .missingEdge function edge successors =>
    let found := if successors.isEmpty then "none" else ", ".intercalate successors
    s!"entry #{edge.position}: {edge.dest} is not a successor of {edge.src} in function " ++
      s!"{Text.quoted function} (successors: {found})"

/-- The failure as a report. -/
def Failure.report (f : Failure) : Report :=
  match f with
  | .blockCount function expected actual =>
    .failedVerification f.message (.str function) .null (.int expected) (.int actual)
  | .missingEdge function edge successors =>
    .failedVerification f.message (.str function) (.int edge.position) (.str edge.dest)
      (.list (successors.map .str))

end Oracle

/-! ## Faults -/

/-- Why a pass or a check ended early. -/
inductive Fault where
  | value (e : Sexp.BuildError)
  | pattern (e : PatternError)
  | graph (e : Ir.Error)
  | oracle (e : Oracle.DecodeError)
  | failed (e : Oracle.Failure)
  | other (r : Report)

namespace Fault

/-- The fault as a report. -/
def report : Fault → Report
  | .value e => e.report
  | .pattern e => e.report
  | .graph e => e.report
  | .oracle e => e.report
  | .failed e => e.report
  | .other r => r

/-- Whether the fault says that a verification failed. -/
def isFailure (f : Fault) : Bool := f.report.kind.isA .verificationFailed

/-- Whether the fault is an outcome and not a defect of a pass. -/
def isForeseen (f : Fault) : Bool := f.report.kind.isA .framework || f.report.kind.isA .query

end Fault

end Flowcheck
