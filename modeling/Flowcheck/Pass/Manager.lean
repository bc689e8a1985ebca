import Flowcheck.Pass.Basic
import Flowcheck.Pass.Config

/-!
# Running passes

The manager runs passes over one bundle in order. A foreseen fault ends its pass and is recorded;
the run stops there unless it is to keep going. Any other fault is a defect of the pass and ends
the whole run without a record. The bundle is checked first, if the configuration asks for it.
-/

namespace Flowcheck

/-- How a pass ended. -/
inductive RunStatus where
  | ok
  | failed
  | error
  deriving DecidableEq, Repr

/-- The status as a word. -/
def RunStatus.word : RunStatus → String
  | .ok => "ok"
  | .failed => "failed"
  | .error => "error"

/-- The record of one pass. -/
structure RunRecord where
  name : String
  status : RunStatus
  fault? : Option Fault

/-- What a run leaves behind: the records, and the output and log of all passes. A run that did not
come to its end has the fault that ended it. -/
structure RunOutcome where
  records : List RunRecord := []
  lines : List String := []
  log : List LogEntry := []
  aborted? : Option Fault := none

namespace RunOutcome

/-- The lines as text, each with its end. -/
def text (o : RunOutcome) : String := String.join (o.lines.map (· ++ "\n"))

/-- Puts what happened before in front. -/
def after (o : RunOutcome) (records : List RunRecord) (lines : List String) (log : List LogEntry) :
    RunOutcome :=
  ⟨records ++ o.records, lines ++ o.lines, log ++ o.log, o.aborted?⟩

end RunOutcome

namespace Manager

/-- The name under which the manager logs. -/
def logSource : String := "arbos.passes"

/-- The record of a pass that ended in an outcome; nothing for an unforeseen fault. -/
def record? (p : Pass) (o : Outcome) : Option RunRecord :=
  match o.fault? with
  | none => some ⟨p.name, .ok, none⟩
  | some f =>
    if f.isFailure then some ⟨p.name, .failed, some f⟩
    else if f.isForeseen then some ⟨p.name, .error, some f⟩
    else none

/-- The entry before a pass. -/
def startEntry (p : Pass) (b : Ir.Bundle) : LogEntry :=
  ⟨.info, logSource, s!"running pass {p.name} on bundle {Text.quoted b.name}", false⟩

/-- The entry after a pass. -/
def endEntry (r : RunRecord) : LogEntry :=
  match r.fault? with
  | none => ⟨.info, logSource, s!"pass {r.name} finished in ", true⟩
  | some f => ⟨.warning, logSource, s!"pass {r.name} {r.status.word}: {f.report.text}", false⟩

/-- Runs passes in order. -/
def runPasses (keepGoing : Bool) (b : Ir.Bundle) : List Pass → RunOutcome
  | [] => {}
  | p :: rest =>
    let o := p.execute b
    let log := startEntry p b :: o.log
    match record? p o with
    | none => { lines := o.lines, log, aborted? := o.fault? }
    | some r =>
      -- A foreseen fault stops the run here unless it is to keep going.
      let remaining := if r.fault?.isSome && !keepGoing then {} else runPasses keepGoing b rest
      remaining.after [r] o.lines (log ++ [endEntry r])

/-- Runs passes as configured. -/
def run (c : RunConfig) (passes : List Pass) (b : Ir.Bundle) : RunOutcome :=
  let warnings := c.warnings.map fun w ↦ (⟨.warning, logSource, "RunConfig: " ++ w, false⟩ : LogEntry)
  let outcome : RunOutcome :=
    match if c.validateIr then b.validate else .ok () with
    | .error e => { aborted? := some (.graph e) }
    | .ok () => runPasses c.keepGoing b passes
  outcome.after [] [] warnings

end Manager

end Flowcheck
