import Flowcheck.Fault
import Flowcheck.Ir.Consistency
import Flowcheck.Ir.Traversal
import Flowcheck.Log

/-!
# Verification

A verifier is a visitor with one hook. On entering a function it decodes the oracle, compares the
number of blocks if one is required, and then looks for each expected edge in turn; the function is
done when all are there. A verifier can be restricted to the functions of one name. It remembers the
functions that passed, over as many walks as it takes part in.

The verdict of a bundle is that of one walk: a failed comparison is a negative verdict, while a
malformed oracle, a missing function and a missing source block are errors and no verdict at all.
-/

namespace Flowcheck.Oracle

/-- What a verifier compares functions with. -/
structure Verifier where
  literal : Literal
  blockCount? : Option Int := none
  function? : Option String := none

/-- What a verifier has seen: the functions that passed, and its log. -/
structure Progress where
  checked : List String := []
  log : List LogEntry := []
  deriving DecidableEq, Repr

/-- The hooks of a verifier run on its progress and may end the walk. -/
abbrev VerifyM := ExceptT Fault (StateM Progress)

/-! ## Comparing one function -/

/-- Compares the number of blocks. -/
def checkBlockCount (f : Ir.Function) (expected : Int) : Except Fault Unit :=
  let actual := f.body.blocks.length
  if (actual : Int) = expected then .ok () else .error (.failed (.blockCount f.name expected actual))

/-- Looks for one expected edge. -/
def checkEdge (f : Ir.Function) (edge : ExpectedEdge) : Except Fault Unit := do
  let src ← (f.body.blockByName edge.src).mapError .graph
  let successors ← (f.body.nextBlocks src).mapError .graph
  let names := successors.map Ir.Block.name
  if edge.dest ∈ names then .ok () else .error (.failed (.missingEdge f.name edge names))

/-- Whether an expected edge is there. -/
def hasEdge (f : Ir.Function) (edge : ExpectedEdge) : Bool := (checkEdge f edge).isOk

/-- Looks for expected edges one after the other, up to the first that is not there. -/
def checkEdges (f : Ir.Function) : List ExpectedEdge → Except Fault Unit
  | [] => .ok ()
  | edge :: rest => do
    checkEdge f edge
    checkEdges f rest

namespace Verifier

/-- The expected edges. -/
def edges (v : Verifier) : Except Fault (List ExpectedEdge) := (decode v.literal).mapError .oracle

/-! ## The visitor -/

/-- The name under which a verifier logs. -/
def logSource : String := "arbos.verifier"

/-- Writes an entry of the verifier's log. -/
def note (level : LogLevel) (message : String) : VerifyM Unit :=
  modify fun p ↦ { p with log := p.log ++ [{ level, source := logSource, message }] }

/-- Compares one function, unless the verifier is restricted to others. -/
def enterFunction (v : Verifier) (f : Ir.Function) : VerifyM Unit := do
  if v.function?.all (· = f.name) then
    let edges ← v.edges
    if let some expected := v.blockCount? then checkBlockCount f expected
    -- The edges in front of the first missing one are logged before that one is reported.
    (edges.takeWhile (hasEdge f)).forM fun edge ↦
      note .debug s!"{f.name}: edge #{edge.position} {edge.text} ok"
    checkEdges f edges
    modify fun p ↦ { p with checked := p.checked ++ [f.name] }
    note .info s!"{f.name}: {edges.length} edge(s) verified"

/-- The handler for functions. -/
def handler (v : Verifier) : Ir.Handler VerifyM
  | .function f => do
    v.enterFunction f
    return .proceed
  | _ => return .proceed

/-- The verifier as a visitor. -/
def visitor (v : Verifier) : Ir.Visitor VerifyM :=
  ⟨[{ name := Ir.enterName .function, handler? := some v.handler }]⟩

/-- Walks over a bundle, continuing from earlier progress. -/
def walk (v : Verifier) (b : Ir.Bundle) (p : Progress) : Except Fault Unit × Progress :=
  (Ir.walk (.bundle b) v.visitor none).run.run p

end Verifier

/-! ## Verdicts -/

/-- The outcome of verifying a bundle: the functions that passed, the expected edges, and what
differed, if anything did. -/
structure Verdict where
  functions : List String
  edges : List ExpectedEdge
  failure? : Option Failure
  deriving DecidableEq, Repr

namespace Verdict

/-- Whether nothing differed. -/
def passed (v : Verdict) : Bool := v.failure?.isNone

/-- The verdict in a word. -/
def word (v : Verdict) : String := if v.passed then "PASS" else "FAIL"

/-- How many edges were looked for, and where. -/
def extent (edges : List ExpectedEdge) (functions : List String) : String :=
  let places := if functions.isEmpty then "no functions" else ", ".intercalate functions
  s!"({edges.length} edge(s) in {places})"

/-- The verdict as a line. -/
def text (v : Verdict) : String :=
  match v.failure? with
  | none => "PASS " ++ extent v.edges v.functions
  | some f => "FAIL: " ++ f.message

end Verdict

/-- Verifies a bundle. The oracle is decoded and a named function looked up before anything is
compared. -/
def verify (v : Verifier) (b : Ir.Bundle) : Except Fault Verdict × List LogEntry :=
  match v.edges with
  | .error e => (.error e, [])
  | .ok edges =>
    match v.function?.mapM b.function with
    | .error e => (.error (.graph e), [])
    | .ok _ =>
      match v.walk b {} with
      | (.ok (), p) => (.ok ⟨p.checked, edges, none⟩, p.log)
      | (.error (.failed failure), p) => (.ok ⟨p.checked, edges, some failure⟩, p.log)
      | (.error e, p) => (.error e, p.log)

end Flowcheck.Oracle
