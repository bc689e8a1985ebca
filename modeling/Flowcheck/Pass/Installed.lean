import Flowcheck.Pass.Config
import Flowcheck.Pass.Registry
import Flowcheck.Pass.Regression

/-!
# The installed passes

What comes with the program: the printer, which is a class of passes, and the check for lowered phi
nodes, which is a unit. Both are built into every registry and are advertised as entry points as
well, where they are recognised as the factories that are already there.
-/

namespace Flowcheck.Installed

/-- The printer as a class of passes. -/
def printer : Candidate where
  shown := "<class 'arbos.printer.CfgPrinterPass'>"
  factory? := some ⟨"arbos.printer.CfgPrinterPass", .pass (Printer.pass none)⟩
  passClass? := some ⟨"print-cfg", "arbos.printer.CfgPrinterPass"⟩

/-- The class of checks; a check that is configured no further expects nothing. -/
def check : Candidate where
  shown := "<class 'arbos.verifier.CfgTransPass'>"
  factory? := some ⟨"arbos.verifier.CfgTransPass", .pass ({} : Check).pass⟩
  passClass? := some ⟨({} : Check).name, "arbos.verifier.CfgTransPass"⟩

/-- The reference of the unit with the check for lowered phi nodes. -/
def nestedLoopRef : String := "arbos.regression.cfg_trans_llvm_phi_2"

/-- The unit with the check for lowered phi nodes. -/
def nestedLoopUnit : PassUnit :=
  .loaded (some
    { shown := "<function init>"
      factory? := some ⟨nestedLoopRef ++ ".init", .pass Regression.nestedLoopCheck.pass⟩ })

/-- The units built into every registry. -/
def builtinUnits : List String := [nestedLoopRef]

/-- The installed packages. -/
def packages : List String := ["arbos", "arbos.regression", "sexql"]

/-- The installed modules that offer no factory. -/
def plainModules : List String :=
  ["arbos.config", "arbos.errors", "arbos.ir", "arbos.loader", "arbos.main", "arbos.passes",
    "arbos.printer", "arbos.verifier", "arbos.visitor", "sexql.errors", "sexql.pattern",
    "sexql.reader"]

/-- All installed modules. -/
def modules : List InstalledModule :=
  packages.map (fun name ↦ { name := name, isPackage := true }) ++
    plainModules.map (fun name ↦ { name := name }) ++ [{ name := nestedLoopRef, unit := nestedLoopUnit }]

/-- The advertised passes. -/
def entryPoints (group : String) : List EntryPoint :=
  if group = defaultEntryPointGroup then
    [⟨"print-cfg", "arbos.printer:CfgPrinterPass", .candidate printer⟩,
      ⟨"unittest-cfg-trans-llvm-phi-2", nestedLoopRef, .unit nestedLoopUnit⟩]
  else []

/-- The installation, with unit files where `file` says. -/
def surroundings (file : String → UnitFile) : Surroundings := ⟨modules, entryPoints, file⟩

/-- Registers what is built in, then what is advertised, then the configured units, and seals the
registry. -/
def enterAll (s : Surroundings) (c : RunConfig) : Registry.BuildM Unit := do
  Registry.enterClass printer
  builtinUnits.forM fun ref ↦ discard (Registry.enterUnit s ref)
  if c.discoverPlugins then
    let _ ← Registry.discover (s.entryPoints c.entryPointGroup) c.entryPointGroup
  (c.units.filter (· ≠ "")).forM fun ref ↦ discard (Registry.enterUnit s ref)
  Registry.advance (← Registry.current).close

/-- The registry of a configuration, and the log of building it. -/
def registry (s : Surroundings) (c : RunConfig) : Except PassError Registry × List LogEntry :=
  let (result, r, log) := (enterAll s c).run.run ({}, [])
  ((fun _ ↦ r) <$> result, log)

end Flowcheck.Installed
