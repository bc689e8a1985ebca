import Flowcheck.Pass.Basic
import Flowcheck.Text.Quoted

/-!
# Units of passes

Passes come from factories, and factories from units: installed modules, called by dotted names, and
files, called by paths. A unit offers its factory under the name `init`. What is not known in
advance is kept as data here: a factory says what calling it gives, which need not be a pass.

A factory has an identity, since a factory that is met twice is recognised as the same one.
-/

namespace Flowcheck

/-! ## Factories -/

/-- What calling a factory gives. -/
inductive Product where
  | pass (p : Pass)
  | other (typeName : String)
  | raises (r : Report)

/-- A factory of passes. -/
structure Factory where
  identity : String
  product : Product

/-- The name under which a class of passes registers itself, and where the class is defined. -/
structure PassClass where
  passName : String
  origin : String

/-- Something that is offered as a factory. Only what can be called is one; a class of passes can
also be registered under its own name. -/
structure Candidate where
  shown : String
  factory? : Option Factory
  passClass? : Option PassClass := none

/-! ## Errors -/

/-- Why a unit cannot be used. -/
inductive UnitFault where
  | noSuchFile
  | notImportable
  | importFailed (cause : String)
  | noInit
  | notCallable
  deriving DecidableEq, Repr

/-- The fault as a phrase. -/
def UnitFault.reason : UnitFault → String
  | .noSuchFile => "no such file"
  | .notImportable => "not an importable Python file"
  | .importFailed cause => cause
  | .noInit => "module defines no init()"
  | .notCallable => "init is not callable"

/-- Why an operation on passes and their registry fails. -/
inductive PassError where
  | registrySealed (name : String)
  | emptyName
  | notCallable (name : String)
  | duplicate (name origin : String)
  | notAClass (shown : String)
  | notAPass (origin typeName : String)
  | misnamed (origin expected actual : String)
  | notFound (name : String) (available : List String)
  | unusable (unit : String) (fault : UnitFault)
  | raised (r : Report)

/-- The error as a report. -/
def PassError.report : PassError → Report
  | .registrySealed name =>
    .plain .pass s!"registry is sealed; cannot register {Text.quoted name}"
  | .emptyName => .plain .pass "pass name may not be empty"
  | .notCallable name => .plain .pass s!"factory for {Text.quoted name} is not callable"
  | .duplicate name origin =>
    let source := if origin = "" then "<unknown>" else origin
    .plain .duplicatePass s!"pass {Text.quoted name} already registered from {source}"
  | .notAClass shown => .plain .pass s!"{shown} is not a Pass subclass"
  | .notAPass origin typeName =>
    .plain .pass s!"{origin}: factory returned {typeName}, not a Pass"
  | .misnamed origin expected actual =>
    .plain .pass <| s!"{origin}: factory registered as {Text.quoted expected} " ++
      s!"built a pass named {Text.quoted actual}"
  | .notFound name available => .passLookup (.str name) available
  | .unusable unit fault => .unusableUnit unit fault.reason
  | .raised r => r

/-! ## Units -/

/-- A unit that was found. Loading it can fail; otherwise it may offer something as `init`. -/
inductive PassUnit where
  | broken (cause : String)
  | loaded (init? : Option Candidate)

/-- The factory that a unit offers. -/
def PassUnit.factory : PassUnit → Except UnitFault Factory
  | .broken cause => .error (.importFailed cause)
  | .loaded none => .error .noInit
  | .loaded (some candidate) =>
    match candidate.factory? with
    | some f => .ok f
    | none => .error .notCallable

/-- What a path to a unit leads to. A unit is also given the place it was found at. -/
inductive UnitFile where
  | absent
  | unsuitable
  | unit (place : String) (u : PassUnit)

/-- An installed module. Only a package has modules inside it. -/
structure InstalledModule where
  name : String
  isPackage : Bool := false
  unit : PassUnit := .loaded none

/-- What an entry point leads to: a unit or a factory, or a reason why it leads nowhere. -/
inductive EntryTarget where
  | unit (u : PassUnit)
  | candidate (c : Candidate)
  | broken (cause : String)

/-- The factory at the end of an entry point. -/
def EntryTarget.factory : EntryTarget → Except UnitFault Factory
  | .unit u => u.factory
  | .candidate c => (PassUnit.loaded (some c)).factory
  | .broken cause => .error (.importFailed cause)

/-- A pass that an installed program advertises: a name, the reference it was given with, and where
that leads. -/
structure EntryPoint where
  name : String
  value : String
  target : EntryTarget

/-- The origin of what an entry point provides. -/
def EntryPoint.origin (e : EntryPoint) : String := e.name ++ " = " ++ e.value

/-- Where units come from: installed modules, advertised passes by group, and files by path. -/
structure Surroundings where
  modules : List InstalledModule
  entryPoints : String → List EntryPoint
  file : String → UnitFile

namespace Surroundings

/-! ## Dotted names -/

/-- The dotted names that lead to a dotted name, shortest first and the name itself last. -/
def leading (ref : String) : List String :=
  let parts := (ref.splitToList (· = '.'))
  (List.range parts.length).map fun n ↦ ".".intercalate (parts.take (n + 1))

/-- The installed module of a dotted name. -/
def module? (s : Surroundings) (name : String) : Option InstalledModule :=
  s.modules.find? (·.name = name)

/-- Why a module is not there, inside `parent?` if that was reached. -/
def missing (parent? : Option InstalledModule) (name : String) : UnitFault :=
  let cause := "ModuleNotFoundError: No module named " ++ Text.quoted name
  match parent? with
  | some parent =>
    if parent.isPackage then .importFailed cause
    else .importFailed (cause ++ "; " ++ Text.quoted parent.name ++ " is not a package")
  | none => .importFailed cause

/-- Walks along dotted names, each of which must be installed; `reached?` is the last one passed. -/
def descend (s : Surroundings) (reached? : Option InstalledModule) :
    List String → Except UnitFault PassUnit
  | [] => .ok ((reached?.map (·.unit)).getD (.loaded none))
  | name :: rest =>
    match s.module? name with
    | some m => s.descend (some m) rest
    | none => .error (missing reached? name)

/-- Loads an installed module. A name may neither be empty nor start with a dot. -/
def importModule (s : Surroundings) (ref : String) : Except UnitFault PassUnit :=
  if ref = "" then .error (.importFailed "ValueError: Empty module name")
  else if ref.startsWith "." then
    .error <| .importFailed <|
      "TypeError: the 'package' argument is required to perform a relative import for " ++
        Text.quoted ref
  else
    match s.descend none (leading ref) with
    | .ok (.broken cause) => .error (.importFailed cause)
    | found => found

/-! ## References -/

/-- The place of a unit that is no file. -/
def unknownPlace : String := "?"

/-- Finds the unit that a reference means, and its place. A reference that ends like a unit file, or
at which there is a file, means that file; any other one means an installed module. -/
def findUnit (s : Surroundings) (ref : String) : Except UnitFault (String × PassUnit) :=
  let asModule := (unknownPlace, ·) <$> s.importModule ref
  match s.file ref with
  | .absent => if ref.endsWith ".py" then .error .noSuchFile else asModule
  | .unsuitable => .error .notImportable
  | .unit _ (.broken cause) => .error (.importFailed cause)
  | .unit place u => .ok (place, u)

end Surroundings

end Flowcheck
