import Flowcheck.Pass.Description
import Flowcheck.Pass.Installed
import Flowcheck.Proofs.Pass.Manager
import Flowcheck.Proofs.Pass.Registry

/-!
# What installed registries hold

Every pass that a command can be asked for is one over control flow: the printer is built in, and
units, whether they are installed, advertised or described in files, offer checks or nothing that is
a pass. A registry is built from these by registering alone, so each of its names is bound to a
factory of such a pass, and of one that has this very name. Creating a pass by a registered name
cannot fail then.
-/

namespace Flowcheck

variable {r : Registry} {f : Factory} {u : PassUnit} {s : Surroundings} {ref name : String}

/-! ## Offers -/

/-- A factory that builds a pass over control flow, if it builds a pass. -/
def Factory.OverFlow (f : Factory) : Prop := ∀ p, f.product = .pass p → p.OverFlow

/-- A unit that offers nothing else. -/
def PassUnit.OverFlow (u : PassUnit) : Prop := ∀ f, u.factory = .ok f → f.OverFlow

/-- Surroundings in which nothing else is offered. -/
structure Surroundings.OverFlow (s : Surroundings) : Prop where
  modules : ∀ m ∈ s.modules, m.unit.OverFlow
  entryPoints : ∀ group, ∀ e ∈ s.entryPoints group, ∀ f, e.target.factory = .ok f → f.OverFlow
  files : ∀ ref place u, s.file ref = .unit place u → u.OverFlow

theorem PassUnit.overFlow_empty : (PassUnit.loaded none).OverFlow := nofun

theorem PassUnit.overFlow_loaded {shown identity : String} {product : Product}
    (h : ∀ p, product = .pass p → p.OverFlow) :
    (PassUnit.loaded (some { shown, factory? := some ⟨identity, product⟩ })).OverFlow := by
  rintro f ⟨⟩
  exact h

theorem PassUnit.overFlow_ofJson (identity : String) (j : Json) :
    (ofJson identity j).OverFlow := by
  rw [ofJson]
  split
  · refine overFlow_loaded ?_
    rintro p ⟨⟩
    exact .check _
  · refine overFlow_loaded ?_
    rintro p ⟨⟩
  · rintro f ⟨⟩
  · rintro f ⟨⟩
  · exact overFlow_empty

theorem PassUnit.overFlow_ofBytes (identity : String) (bytes : List UInt8) :
    (ofBytes identity bytes).OverFlow := by
  rw [ofBytes]
  split
  · exact overFlow_empty
  · split
    · exact overFlow_empty
    · exact overFlow_ofJson identity _

theorem Files.Tree.overFlow_of_unitFile {t : Tree} {workingDirectory : Location} {place : String}
    (there : t.unitFile workingDirectory ref = .unit place u) : u.OverFlow := by
  rw [unitFile] at there
  split at there
  · split at there
    · cases there
      exact PassUnit.overFlow_ofBytes _ _
    · cases there
  · cases there

/-- What is installed offers no pass but the printer and the check for lowered phi nodes. -/
theorem Installed.overFlow_surroundings {file : String → UnitFile}
    (files : ∀ ref place u, file ref = .unit place u → u.OverFlow) :
    (surroundings file).OverFlow := by
  have nestedLoop : nestedLoopUnit.OverFlow := by
    refine PassUnit.overFlow_loaded ?_
    rintro p ⟨⟩
    exact .check _
  constructor
  case modules =>
    intro m listed
    rcases List.mem_append.1 listed with plain | last
    · rcases List.mem_append.1 plain with plain | plain
      · obtain ⟨_, -, rfl⟩ := List.mem_map.1 plain
        exact PassUnit.overFlow_empty
      · obtain ⟨_, -, rfl⟩ := List.mem_map.1 plain
        exact PassUnit.overFlow_empty
    · rw [List.mem_singleton.1 last]
      exact nestedLoop
  case entryPoints =>
    intro group e listed f leads
    simp only [surroundings, Installed.entryPoints] at listed
    split at listed
    · rcases List.mem_pair.1 listed with rfl | rfl
      · cases leads
        rintro p ⟨⟩
        exact .printer none _ _ _
      · exact nestedLoop f leads
    · cases listed
  case files => exact files

/-! ## Units -/

namespace Surroundings.OverFlow

variable (offers : s.OverFlow)

include offers

theorem of_descend {reached? : Option InstalledModule} {names : List String}
    (reached : ∀ m, reached? = some m → m.unit.OverFlow)
    (found : s.descend reached? names = .ok u) : u.OverFlow := by
  induction names generalizing reached? with
  | nil =>
    cases reached? with
    | none =>
      cases found
      exact PassUnit.overFlow_empty
    | some m =>
      cases found
      exact reached m rfl
  | cons name names ih =>
    rw [descend] at found
    split at found
    · rename_i m installed
      refine ih ?_ found
      rintro m' ⟨⟩
      exact offers.modules m (List.mem_of_find?_eq_some installed)
    · cases found

theorem of_importModule (found : s.importModule ref = .ok u) : u.OverFlow := by
  have start : ∀ m, (none : Option InstalledModule) = some m → m.unit.OverFlow := by
    rintro m ⟨⟩
  rw [importModule] at found
  split at found
  · cases found
  · split at found
    · cases found
    · split at found
      · cases found
      · exact offers.of_descend start found

theorem of_findUnit {place : String} (found : s.findUnit ref = .ok (place, u)) : u.OverFlow := by
  rw [findUnit] at found
  split at found
  · split at found
    · cases found
    · obtain ⟨u', imported, same⟩ := map_eq_ok_iff.1 found
      cases same
      exact offers.of_importModule imported
  · cases found
  · cases found
  · rename_i there
    cases found
    exact offers.files _ _ _ there

end Surroundings.OverFlow

namespace Registry

variable {p : Pass} {place : String}

/-- A unit gives the pass that its factory builds. -/
theorem of_unitPass (built : unitPass s ref = .ok (f, p)) :
    ∃ place u, s.findUnit ref = .ok (place, u) ∧ u.factory = .ok f ∧ f.product = .pass p := by
  obtain ⟨⟨place, u⟩, found, rest⟩ := bind_eq_ok_iff.1 built
  obtain ⟨f', offered, rest⟩ := bind_eq_ok_iff.1 rest
  obtain ⟨p', made, ⟨⟩⟩ := bind_eq_ok_iff.1 rest
  exact ⟨place, u, mapError_eq_ok_iff.1 found, mapError_eq_ok_iff.1 offered,
    asPass_eq_ok_iff.1 made⟩

/-! ## Stocked registries -/

/-- Each name is bound to a factory of a pass over control flow that has this name. -/
structure Stocked (r : Registry) : Prop where
  paired : r.Paired
  passes : ∀ name f, r.bindings.get? name = some f →
    ∃ p, f.product = .pass p ∧ p.OverFlow ∧ p.name = name

theorem stocked_empty : Stocked {} := ⟨rfl, nofun⟩

theorem Stocked.of_registerBuilt {r' : Registry} (stocked : r.Stocked)
    (registered : r.registerBuilt f p place = .ok r') (product : f.product = .pass p)
    (overFlow : p.OverFlow) : r'.Stocked := by
  obtain ⟨unsealed, named, free, rfl⟩ := registerBuilt_eq_ok_iff.1 registered
  constructor
  case paired => exact stocked.paired.bind free
  case passes => exact Assoc.forall_get?_insert ⟨p, product, overFlow, rfl⟩ stocked.passes

/-- **Creating a pass by a registered name succeeds.** -/
theorem Stocked.exists_create (stocked : r.Stocked) (listed : name ∈ r.names) :
    ∃ p, r.create name = .ok p ∧ p.OverFlow ∧ p.name = name := by
  obtain ⟨f, place, holds⟩ := stocked.paired.exists_holds (mem_names.1 listed)
  obtain ⟨p, product, overFlow, same⟩ := stocked.passes name f holds.1
  exact ⟨p, holds.createFrom_eq_ok_iff.2 ⟨product, same⟩, overFlow, same⟩

/-! ## Building -/

/-- What a computation keeps true of the registry, whether or not it comes to its end. -/
def Keeps (P : Registry → Prop) {α : Type} (m : BuildM α) : Prop :=
  ∀ r log, P r → P (m.run.run (r, log)).2.1

namespace Keeps

variable {P : Registry → Prop} {α β : Type}

theorem of_comes {m : BuildM α}
    (comes : ∀ r, P r → ∃ x r', r.Comes m x r' ∧ P r') : Keeps P m := by
  intro r log holds
  obtain ⟨x, r', ended, holds'⟩ := comes r holds
  obtain ⟨log', ran⟩ := ended log
  rwa [ran]

theorem pure (a : α) : Keeps P (pure a : BuildM α) := fun _ _ holds ↦ holds

theorem note (level : LogLevel) (message : String) : Keeps P (note level message) :=
  fun _ _ holds ↦ holds

theorem bind {m : BuildM α} {f : α → BuildM β} (first : Keeps P m) (next : ∀ a, Keeps P (f a)) :
    Keeps P (m >>= f) := by
  intro r log holds
  have first := first r log holds
  rcases ran : m.run.run (r, log) with ⟨e | a, r', log'⟩
  · rw [ran] at first
    rw [run_bind_of_error ran]
    exact first
  · rw [ran] at first
    rw [run_bind_of_ok ran]
    exact next a r' log' first

theorem forM {f : α → BuildM Unit} {as : List α} (each : ∀ a ∈ as, Keeps P (f a)) :
    Keeps P (as.forM f) := by
  induction as with
  | nil => exact pure ()
  | cons a as ih =>
    obtain ⟨head, tail⟩ := List.forall_mem_cons.1 each
    exact head.bind fun _ ↦ ih tail

end Keeps

theorem keeps_enterUnit (offers : s.OverFlow) : Keeps Stocked (enterUnit s ref) := by
  refine .of_comes fun r stocked ↦ ⟨_, _, comes_enterUnit, ?_⟩
  cases added : r.addUnit s ref with
  | error e => exact stocked
  | ok pr =>
    obtain ⟨f, built, registered⟩ := addUnit_eq_ok_iff.1 added
    obtain ⟨place, u, found, offered, product⟩ := of_unitPass built
    exact stocked.of_registerBuilt registered product
      (offers.of_findUnit found f offered pr.1 product)

/-- What an entry point leads to is registered, or is there already. -/
theorem Stocked.of_addEntryPoint {e : EntryPoint} {name? : Option String} {r' : Registry}
    (stocked : r.Stocked) (offers : ∀ f, e.target.factory = .ok f → f.OverFlow)
    (added : r.addEntryPoint e = .ok (name?, r')) : r'.Stocked := by
  obtain ⟨f, offered, rest⟩ := bind_eq_ok_iff.1 added
  obtain ⟨p, made, rest⟩ := bind_eq_ok_iff.1 rest
  have product := asPass_eq_ok_iff.1 made
  dsimp only at rest
  split at rest
  · cases rest
    exact stocked
  · obtain ⟨r'', registered, ⟨⟩⟩ := bind_eq_ok_iff.1 rest
    exact stocked.of_registerBuilt registered product
      (offers f (mapError_eq_ok_iff.1 offered) p product)

theorem keeps_enterPoints {points : List EntryPoint}
    (offers : ∀ e ∈ points, ∀ f, e.target.factory = .ok f → f.OverFlow) :
    Keeps Stocked (enterPoints points) := by
  induction points with
  | nil => exact .pure []
  | cons e points ih =>
    obtain ⟨here, later⟩ := List.forall_mem_cons.1 offers
    intro r log stocked
    rw [enterPoints, run_bind_of_ok (run_current _)]
    cases added : r.addEntryPoint e with
    | error _ => exact stocked
    | ok x =>
      obtain ⟨name?, r'⟩ := x
      have stocked' : r'.Stocked := stocked.of_addEntryPoint here added
      -- From here on the computation goes on with the new registry.
      cases name? with
      | some name =>
        have rest : Keeps Stocked (do
            note .debug (registeredMessage name e.origin)
            return name :: (← enterPoints points)) :=
          (Keeps.note _ _).bind fun _ ↦ (ih later).bind fun _ ↦ .pure _
        exact rest r' log stocked'
      | none =>
        have rest : Keeps Stocked (do
            note .debug s!"entry point {e.origin} already registered"
            enterPoints points) :=
          (Keeps.note _ _).bind fun _ ↦ ih later
        exact rest r' log stocked'

theorem keeps_discover {points : List EntryPoint} {group : String}
    (offers : ∀ e ∈ points, ∀ f, e.target.factory = .ok f → f.OverFlow) :
    Keeps Stocked (discover points group) :=
  (keeps_enterPoints offers).bind fun _ ↦ (Keeps.note _ _).bind fun _ ↦ .pure _

theorem keeps_enterPrinter : Keeps Stocked (enterClass Installed.printer) := by
  refine .of_comes fun r stocked ↦ ⟨_, _, comes_enterClass, ?_⟩
  cases registered : r.registerClass Installed.printer with
  | error e => exact stocked
  | ok r' =>
    have built : r.registerBuilt ⟨"arbos.printer.CfgPrinterPass", .pass (Printer.pass none)⟩
        (Printer.pass none) "arbos.printer.CfgPrinterPass" = .ok r' := registered
    exact stocked.of_registerBuilt built rfl (.printer none _ _ _)

theorem keeps_close : Keeps Stocked (do advance (← current).close) :=
  fun _ _ stocked ↦ ⟨stocked.paired, stocked.passes⟩

end Registry

namespace Installed

/-- **Every name of an installed registry stands for a pass over control flow.** -/
theorem stocked_of_registry (offers : s.OverFlow) {c : RunConfig}
    (made : (registry s c).1 = .ok r) : r.Stocked := by
  have units (refs : List String) :
      Registry.Keeps Registry.Stocked (refs.forM fun ref ↦ discard (Registry.enterUnit s ref)) :=
    .forM fun _ _ ↦ (Registry.keeps_enterUnit offers).bind fun _ ↦ .pure ()
  have keeps : Registry.Keeps Registry.Stocked (enterAll s c) := by
    rw [enterAll]
    refine Registry.keeps_enterPrinter.bind fun _ ↦ (units builtinUnits).bind fun _ ↦ ?_
    split
    · exact (Registry.keeps_discover (offers.entryPoints _)).bind fun _ ↦
        (units _).bind fun _ ↦ Registry.keeps_close
    · exact (units _).bind fun _ ↦ Registry.keeps_close
  have stocked := keeps {} [] Registry.stocked_empty
  rw [registry] at made
  rcases ran : (enterAll s c).run.run ({}, []) with ⟨result, r', log⟩
  rw [ran] at made stocked
  obtain ⟨_, -, rfl⟩ := map_eq_ok_iff.1 made
  exact stocked

/-! ## What is built in -/

/-- The factory of the printer. -/
def printerFactory : Factory := ⟨"arbos.printer.CfgPrinterPass", .pass (Printer.pass none)⟩

/-- The factory of the check for lowered phi nodes. -/
def nestedLoopFactory : Factory :=
  ⟨nestedLoopRef ++ ".init", .pass Regression.nestedLoopCheck.pass⟩

/-- The registry of what is built in and of nothing else. -/
def builtins : Registry :=
  ((Registry.bind {} "print-cfg" printerFactory "arbos.printer.CfgPrinterPass").bind
    Regression.nestedLoopCheck.name nestedLoopFactory nestedLoopRef).close

variable {file : String → UnitFile} {c : RunConfig}

theorem importModule_nestedLoop :
    (surroundings file).importModule nestedLoopRef = .ok nestedLoopUnit := by
  have leading : Surroundings.leading nestedLoopRef =
      ["arbos", "arbos.regression", nestedLoopRef] := by decide +kernel
  have absolute : nestedLoopRef.startsWith "." = false := by decide +kernel
  rw [Surroundings.importModule, leading, absolute]
  rfl

theorem registerClass_printer : Registry.registerClass {} printer =
    .ok (.bind {} "print-cfg" printerFactory "arbos.printer.CfgPrinterPass") := by
  have named : ("print-cfg" : String) ≠ "" := by decide
  have free : "print-cfg" ∉ ({} : Registry).bindings.keys := List.not_mem_nil
  show Registry.register {} "print-cfg" printer "arbos.printer.CfgPrinterPass" = _
  exact Registry.register_eq_ok_iff.2 ⟨rfl, named, printerFactory, rfl, free, rfl⟩

theorem addUnit_nestedLoop (absent : file nestedLoopRef = .absent) {r : Registry}
    (unsealed : r.isSealed = false) (free : Regression.nestedLoopCheck.name ∉ r.bindings.keys) :
    r.addUnit (surroundings file) nestedLoopRef = .ok (Regression.nestedLoopCheck.pass,
      r.bind Regression.nestedLoopCheck.name nestedLoopFactory nestedLoopRef) := by
  have plain : nestedLoopRef.endsWith ".py" = false := by decide +kernel
  have found : (surroundings file).findUnit nestedLoopRef =
      .ok (Surroundings.unknownPlace, nestedLoopUnit) := by
    have there : (surroundings file).file nestedLoopRef = .absent := absent
    rw [Surroundings.findUnit, importModule_nestedLoop, there, plain]
    rfl
  have built : Registry.unitPass (surroundings file) nestedLoopRef =
      .ok (nestedLoopFactory, Regression.nestedLoopCheck.pass) := by
    rw [Registry.unitPass, found]
    rfl
  refine Registry.addUnit_eq_ok_iff.2 ⟨nestedLoopFactory, built, ?_⟩
  exact Registry.registerBuilt_eq_ok_iff.2 ⟨unsealed, by decide, free, rfl⟩

/-- The registry with the printer alone. -/
def printing : Registry := .bind {} "print-cfg" printerFactory "arbos.printer.CfgPrinterPass"

/-- How a unit is registered whose pass is not asked for. -/
theorem run_enterUnit (r : Registry) (s : Surroundings) (ref : String) (log : List LogEntry) :
    ∃ log', (discard (Registry.enterUnit s ref)).run.run (r, log) =
      ((fun _ ↦ ()) <$> r.addUnit s ref, r.settled (Prod.snd <$> r.addUnit s ref), log') := by
  have comes : r.Comes (Registry.enterUnit s ref) _ _ := Registry.comes_enterUnit
  obtain ⟨log', ran⟩ := comes log
  refine ⟨log', ?_⟩
  cases added : r.addUnit s ref with
  | error e =>
    rw [added] at ran
    exact run_bind_of_error ran fun _ ↦ pure ()
  | ok pr =>
    rw [added] at ran
    exact run_bind_of_ok ran fun _ ↦ pure ()

/-- Without further units and without advertised passes a registry holds what is built in, unless
there is a file where the unit's reference leads. -/
theorem registry_of_absent (absent : file nestedLoopRef = .absent)
    (plain : c.discoverPlugins = false) (none : c.units = []) :
    (registry (surroundings file) c).1 = .ok builtins := by
  obtain ⟨log₁, first⟩ := Registry.comes_enterClass (r := {}) (c := printer) []
  rw [registerClass_printer] at first
  obtain ⟨log₂, second⟩ := run_enterUnit printing (surroundings file) nestedLoopRef log₁
  rw [addUnit_nestedLoop absent rfl (by decide)] at second
  have units : (builtinUnits.forM fun ref ↦
      discard (Registry.enterUnit (surroundings file) ref)).run.run (printing, log₁) =
        (.ok (), printing.bind Regression.nestedLoopCheck.name nestedLoopFactory nestedLoopRef,
          log₂) :=
    run_bind_of_ok second fun _ ↦ pure ()
  have ran : (enterAll (surroundings file) c).run.run ({}, []) = (.ok (), builtins, log₂) := by
    rw [enterAll, run_bind_of_ok first, plain, none]
    exact run_bind_of_ok units _
  rw [registry, ran]
  rfl

theorem registry_of_unsuitable (unsuitable : file nestedLoopRef = .unsuitable) :
    (registry (surroundings file) c).1 = .error (.unusable nestedLoopRef .notImportable) := by
  obtain ⟨log₁, first⟩ := Registry.comes_enterClass (r := {}) (c := printer) []
  rw [registerClass_printer] at first
  obtain ⟨log₂, second⟩ := run_enterUnit printing (surroundings file) nestedLoopRef log₁
  have refused : printing.addUnit (surroundings file) nestedLoopRef =
      .error (.unusable nestedLoopRef .notImportable) := by
    have there : (surroundings file).file nestedLoopRef = .unsuitable := unsuitable
    rw [Registry.addUnit, Registry.unitPass, Surroundings.findUnit, there]
    rfl
  rw [refused] at second
  have ran : (enterAll (surroundings file) c).run.run ({}, []) =
      (.error (.unusable nestedLoopRef .notImportable), printing, log₂) := by
    rw [enterAll, run_bind_of_ok first]
    exact run_bind_of_error (run_bind_of_error second _) _
  rw [registry, ran]
  rfl

end Installed

namespace Files.Tree

variable {t : Tree} {workingDirectory : Location}

theorem fromRoot_nestedLoop : (Path.ofText Installed.nestedLoopRef).fromRoot workingDirectory =
    workingDirectory ++ [Installed.nestedLoopRef] := by
  have written : Path.ofText Installed.nestedLoopRef = ⟨false, [Installed.nestedLoopRef]⟩ := by
    decide +kernel
  rw [written]
  rfl

theorem unitFile_nestedLoop_of_error {o : Obstacle}
    (missing : t.follow [] (workingDirectory ++ [Installed.nestedLoopRef]) = .error o) :
    t.unitFile workingDirectory Installed.nestedLoopRef = .absent := by
  rw [unitFile, fromRoot_nestedLoop, missing]

/-- A file that stands where the reference of the built-in unit leads is no unit file. -/
theorem unitFile_nestedLoop (t : Tree) (workingDirectory : Location) :
    t.unitFile workingDirectory Installed.nestedLoopRef = .absent ∨
      t.unitFile workingDirectory Installed.nestedLoopRef = .unsuitable := by
  have plain : Installed.nestedLoopRef.endsWith ".py" = false := by decide +kernel
  rw [unitFile, fromRoot_nestedLoop, List.getLastD_concat, plain]
  split
  · exact .inr rfl
  · exact .inl rfl

end Files.Tree

end Flowcheck
