import Flowcheck.Command.Invocation
import Flowcheck.Command.Session
import Flowcheck.Ir.Document
import Flowcheck.Json.Writer
import Flowcheck.Oracle.Verifier
import Flowcheck.Oracle.Writer
import Flowcheck.Pass.Description
import Flowcheck.Pass.Installed
import Flowcheck.Pass.Manager
import Flowcheck.Pattern.Match

/-!
# Performing invocations

One function for each subcommand. The status says what came of it: success, an error in what was
given, trouble with files or units, or a graph that does not have the expected shape.
-/

namespace Flowcheck.Command

/-! ## Bundles and passes -/

/-- How a command halts at the text of a bundle. An integer with too many digits is met by none of
the handlers. -/
def loadHalt (l : Files.Location) : Ir.Document.LoadError → Halt
  | .refused e => .badInput ("Invalid bundle " ++ l.text ++ ": " ++ e.report.text)
  | .tooManyDigits digits => .unexpected (Text.tooManyDigits digits)

/-- Reads the bundle of a file. -/
def loadBundle (path : String) : CommandM Ir.Bundle := do
  let l ← locateExisting "bundle" path
  let text ← readFile l
  let document ← orHalt (loadHalt l) (Ir.Document.parse text)
  let b := (document.build 1).1
  let size := b.functions.length
  record [⟨.debug, "arbos.ir", s!"built bundle {Text.quoted b.name}: {size} function(s)", false⟩,
    ⟨.info, "arbos.loader",
      s!"loaded bundle {Text.quoted b.name} from {l.text} ({size} function(s))", false⟩]
  return b

/-- How a command halts when there is no registry: a unit that cannot be used is not the fault of
the input. -/
def registryHalt (e : PassError) : Halt :=
  let r := e.report
  if r.kind.isA .pluginLoad then .badSurroundings r.text
  else if r.kind.isA .framework then .badInput ("Cannot build pass registry: " ++ r.text)
  else .unexpected r.text

/-- The registry of a configuration. -/
def openRegistry (c : RunConfig) : CommandM Registry := do
  let files := (← get).files
  let workingDirectory := (← read).workingDirectory
  let (r, log) := Installed.registry (Installed.surroundings (files.unitFile workingDirectory)) c
  record log
  orHalt registryHalt r

/-- How a command halts at a report: what the framework or the query language reports is an error in
the input. -/
def reportHalt (r : Report) : Halt :=
  if r.kind.isA .framework || r.kind.isA .query then .badInput r.text else .unexpected r.text

/-- The text, filled with spaces to a width. -/
def padded (width : Nat) (s : String) : String :=
  s ++ String.ofList (List.replicate (width - s.length) ' ')

/-! ## Subcommands -/

/-- The status of a run: a failed verification outweighs an error. -/
def statusOf (records : List RunRecord) : ExitStatus :=
  if records.any (·.status == .failed) then .violation
  else if records.any (·.status != .ok) then .error
  else .success

/-- The entries that sum up one pass. -/
def summary (r : RunRecord) : List LogEntry :=
  let line := padded 40 r.name ++ " " ++ padded 6 r.status.word ++ " "
  let detail := match r.status, r.fault? with
    | .error, some f => [⟨.error, logSource, r.name ++ ": " ++ f.report.text, false⟩]
    | _, _ => []
  ⟨.info, logSource, line, true⟩ :: detail

/-- Runs passes over a bundle, in the order in which they were asked for. -/
def runPasses (registry : Registry) (b : Ir.Bundle) (names : List String) (c : RunConfig) :
    CommandM ExitStatus := do
  let passes ← orHalt (reportHalt ∘ PassError.report) (names.mapM registry.create)
  let outcome := Manager.run c passes b
  record outcome.log
  print outcome.text
  match outcome.aborted? with
  | some (.graph e) =>
    throw (.badInput ("Bundle " ++ Text.quoted b.name ++ " failed validation: " ++ e.report.text))
  | some f => throw (.unexpected f.report.text)
  | none =>
    record (outcome.records.flatMap summary)
    return statusOf outcome.records

/-- Runs passes over the bundle of a file. There has to be a registry before the file is read. -/
def performRun (bundle : String) (names : List String) (c : RunConfig) : CommandM ExitStatus := do
  let registry ← openRegistry c
  let b ← loadBundle bundle
  runPasses registry b names c

/-- Compares the bundle of a file with the text of an oracle. -/
def verifyText (bundle literal : String) (function? : Option String) (blocks? : Option Int) :
    CommandM ExitStatus := do
  let b ← loadBundle bundle
  let (verdict, log) := Oracle.verify ⟨.text literal, blocks?, function?⟩ b
  record log
  let verdict ← orHalt (reportHalt ∘ Fault.report) verdict
  print (verdict.text ++ "\n")
  return if verdict.passed then .success else .violation

/-- Compares a bundle with an oracle, which is given inline or in a file. -/
def performVerify (bundle : String) (oracle? literal? function? : Option String)
    (blocks? : Option Int) : CommandM ExitStatus := do
  let literal ← match literal?, oracle? with
    | some literal, _ => pure literal
    | none, some path => do readFile (← locateExisting "oracle" path)
    | none, none => throw (.badSurroundings "Specify an ORACLE file or -e LITERAL.")
  verifyText bundle literal function? blocks?

/-- Writes the oracle of a function, under its name if there are several. -/
def writeOracle (sink : Sink) (width : Int) (withName : Bool) (f : Ir.Function) :
    CommandM Unit := do
  if withName then sink.write ("; " ++ f.name ++ "\n")
  let text ← orHalt (fun e ↦ .unexpected e.message) (Oracle.format width f)
  sink.write (text ++ "\n")

/-- Prints the oracle of one function or of all. An empty name means all. -/
def performOracle (bundle : String) (function? : Option String) (width : Int)
    (output? : Option String) : CommandM ExitStatus := do
  let b ← loadBundle bundle
  let functions ← match function?.filter (· ≠ "") with
    | none => pure b.functions
    | some name => do
      let f ← orHalt (reportHalt ∘ Ir.Error.report) (b.function name)
      pure [f]
  let sink ← openSink output?
  functions.forM (writeOracle sink width (1 < functions.length))
  return .success

/-- Lists one pass. -/
def listPass (registry : Registry) (withOrigin : Bool) (name : String) : CommandM Unit := do
  let halt (e : PassError) : Halt := .unexpected e.report.text
  let p ← orHalt halt (registry.create name)
  print ("  " ++ padded 40 name ++ " " ++ p.description ++ "\n")
  if withOrigin then
    let origin ← orHalt halt (registry.origin name)
    let shown := if origin = "" then "<direct>" else origin
    print ("  " ++ padded 40 "" ++ " from " ++ shown ++ "\n")

/-- Lists the passes of a registry in the order of their names. -/
def performPasses (withOrigin : Bool) (c : RunConfig) : CommandM ExitStatus := do
  let registry ← openRegistry c
  registry.names.forM (listPass registry withOrigin)
  print s!"\n{registry.bindings.size} pass(es) available.\n"
  return .success

/-- Reads the values of a file. -/
def readValues (l : Files.Location) : CommandM (List Sexp) := do
  let text ← readFile l
  orHalt (fun e ↦ .badInput ("Parse error: " ++ e.report.text)) (Sexp.readAll text (some l.text))

/-- The text of values in a format. -/
def formatted (values : List Sexp) : ValueFormat → String
  | .text => String.join (values.map fun v ↦ v.pretty {} ++ "\n")
  | .shown => String.join (values.map fun v ↦ v.shown ++ "\n")
  | .json => (Json.list (values.map Sexp.toJson)).pretty ++ "\n"

/-- Prints the values of a file. -/
def performParse (source : String) (format : ValueFormat) (output? : Option String) :
    CommandM ExitStatus := do
  let values ← readValues (← locateExisting "source file" source)
  let sink ← openSink output?
  sink.write (formatted values format)
  return .success

/-- Reports on one value: the bindings of a match, or that there is none. -/
def reportMatch (position : Nat) (v : Sexp) (m? : Option Match) : CommandM Unit :=
  match m? with
  | none => note .debug s!"#{position}: no match: {v.flat}"
  | some m =>
    let bindings := " ".intercalate (m.bindings.map fun (name, v) ↦ name ++ "=" ++ v.flat)
    print (Text.trimEnd s!"#{position}: {bindings}" ++ "\n")

/-- Matches the values of a file. That no value matches counts as an error. -/
def performMatching (pattern source : String) : CommandM ExitStatus := do
  let p ← orHalt (fun e ↦ .badInput e.message) (Pattern.compile pattern)
  let values ← readValues (← locateExisting "source file" source)
  let results := p.matchEach values
  results.forM fun (position, v, m?) ↦ reportMatch position v m?
  let matched := results.countP (·.2.2.isSome)
  note .info s!"{matched} of {values.length} value(s) matched {p.text}"
  return if matched = 0 then .error else .success

/-! ## Invocations -/

/-- Performs an invocation. -/
def perform : Invocation → CommandM ExitStatus
  | .run bundle passes config => performRun bundle passes config
  | .verify bundle oracle? literal? function? blocks? =>
    performVerify bundle oracle? literal? function? blocks?
  | .oracle bundle function? width output? => performOracle bundle function? width output?
  | .passes withOrigin config => performPasses withOrigin config
  | .parse source format output? => performParse source format output?
  | .matching pattern source => performMatching pattern source

/-- The level from which a request wants entries logged. -/
def Request.threshold (r : Request) : LogLevel :=
  match r.verbosity with
  | 0 => .warning
  | 1 => .info
  | _ => .debug

/-- Performs a request; gives the status and what was left behind, the log as far as it is wanted.
Without an invocation there is nothing to do, which is no success. -/
def Request.perform (r : Request) (setting : Setting) (files : Files.Tree) :
    ExitStatus × Session :=
  match r.invocation? with
  | none => (.infrastructure, { files })
  | some invocation =>
    let (result, s) := ((Command.perform invocation).run setting).run.run { files }
    let (status, log) := match result with
      | .ok status => (status, s.log)
      | .error halt => (halt.status, s.log ++ [⟨.error, logSource, halt.message, false⟩])
    (status, { s with log := LogEntry.atLeast r.threshold log })

end Flowcheck.Command
