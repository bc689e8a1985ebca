import Flowcheck.Proofs.Command.Outcome
import Flowcheck.Proofs.Document.Loading
import Flowcheck.Proofs.Pass.Installed
import Mathlib

/-!
# The status of a run

Running passes over a bundle ends with a status that a caller goes by. Where a name is not
registered nothing is run at all. Otherwise the status is computed from the records that the run has
left, and these are the records of the passes that were executed: of all that were asked for, or of
those up to the first that did not end well. A pass that was not executed has no record, so it can
count neither as a success nor as a failure; but then one that was executed has not ended well.
-/

namespace Flowcheck.Command

open Manager (record? joined Describes)

variable {setting : Setting} {files : Files.Tree} {c : RunConfig} {b : Ir.Bundle} {r : Registry}
  {path text name : String} {names : List String} {d : Ir.Document} {p : Pass}
  {ps done : List Pass} {records : List RunRecord}

/-! ## Creating passes -/

theorem exists_mapM_create (stocked : r.Stocked) (listed : ∀ name ∈ names, name ∈ r.names) :
    ∃ ps, names.mapM r.create = .ok ps ∧ ps.map Pass.name = names ∧ ∀ p ∈ ps, p.OverFlow := by
  induction names with
  | nil => exact ⟨[], rfl, rfl, nofun⟩
  | cons name names ih =>
    obtain ⟨here, later⟩ := List.forall_mem_cons.1 listed
    obtain ⟨p, created, overFlow, same⟩ := stocked.exists_create here
    obtain ⟨ps, rest, names', overFlows⟩ := ih later
    refine ⟨p :: ps, ?_, ?_, List.forall_mem_cons.2 ⟨overFlow, overFlows⟩⟩
    · rw [List.mapM_cons, created, rest]
      rfl
    · rw [List.map_cons, same, names']

theorem mapM_create_of_not_mem (stocked : r.Stocked) (unlisted : ∃ name ∈ names, name ∉ r.names) :
    ∃ name, names.mapM r.create = .error (.notFound name r.names) := by
  induction names with
  | nil => simp at unlisted
  | cons name names ih =>
    by_cases here : name ∈ r.names
    · obtain ⟨p, created, -, -⟩ := stocked.exists_create here
      obtain ⟨name', refused⟩ := ih (by simpa [here] using unlisted)
      refine ⟨name', ?_⟩
      rw [List.mapM_cons, created, refused]
      rfl
    · refine ⟨name, ?_⟩
      rw [List.mapM_cons, Registry.create, Registry.createFrom_of_not_mem here]
      rfl

/-- A name that is not registered is an error in what was asked for. -/
theorem status_notFound (name : String) (available : List String) :
    (reportHalt (PassError.notFound name available).report).status = .error := by
  have framework : ErrorKind.isA .passNotFound .framework = true := by decide
  show (if (ErrorKind.isA .passNotFound .framework || ErrorKind.isA .passNotFound .query) = true
    then Halt.badInput _ else Halt.unexpected _).status = .error
  rw [framework]
  rfl

/-! ## Executed passes -/

/-- A pass that ends well on a bundle. -/
def Succeeds (p : Pass) (b : Ir.Bundle) : Prop := (p.execute b).fault? = none

/-- A pass that ends because the bundle does not have the expected shape. -/
def Fails (p : Pass) (b : Ir.Bundle) : Prop :=
  ∃ f, (p.execute b).fault? = some f ∧ f.isFailure = true

/-- Which passes are executed, of those that were asked for: all of them, or those up to the first
that does not end well. -/
inductive Executes (c : RunConfig) (b : Ir.Bundle) : List Pass → List Pass → Prop where
  | all {ps : List Pass} (goes : c.keepGoing = true ∨ ∀ p ∈ ps, Succeeds p b) : Executes c b ps ps
  | upTo {before : List Pass} {p : Pass} (stops : c.keepGoing = false)
    (well : ∀ q ∈ before, Succeeds q b) (ended : ¬ Succeeds p b) (after : List Pass) :
    Executes c b (before ++ p :: after) (before ++ [p])

/-- A run is the runs of the executed passes, put together. -/
theorem exists_executes (admits : Manager.Admits c b) (indexed : b.Indexed)
    (overFlow : ∀ p ∈ ps, p.OverFlow) :
    ∃ done, Executes c b ps done ∧ Manager.run c ps b = joined c done b := by
  have recorded (p : Pass) (hp : p ∈ ps) :
      ∃ r, record? p (p.execute b) = some r ∧ (Succeeds p b → r.fault? = none) ∧
        (¬ Succeeds p b → r.fault?.isSome = true) := by
    obtain ⟨r, here, describes⟩ :=
      Manager.exists_record? fun _ ended ↦ (overFlow p hp).recordable indexed ended
    refine ⟨r, here, ?_, ?_⟩
    · exact fun well ↦ describes.fault.trans well
    · rw [describes.fault]
      exact Option.isSome_iff_ne_none.2
  by_cases goes : c.keepGoing = true ∨ ∀ p ∈ ps, Succeeds p b
  · refine ⟨ps, .all goes, Manager.run_eq_joined admits fun p hp ↦ ?_⟩
    obtain ⟨r, here, well, -⟩ := recorded p hp
    exact ⟨r, here, goes.imp id fun all ↦ well (all p hp)⟩
  · obtain ⟨stops, some⟩ := not_or.1 goes
    obtain ⟨before, p, after, rfl, passed, refused⟩ := exists_first_not some
    have stops : c.keepGoing = false := Bool.eq_false_iff.2 stops
    obtain ⟨r, here, -, ended⟩ := recorded p (List.mem_append_right _ List.mem_cons_self)
    refine ⟨before ++ [p], .upTo stops passed refused after, ?_⟩
    refine Manager.run_of_stop admits stops (fun q hq ↦ ?_) here (ended refused) after
    obtain ⟨r, here, well, -⟩ := recorded q (List.mem_append_left _ hq)
    exact ⟨r, here, well (passed q hq)⟩

theorem Executes.subset (executes : Executes c b ps done) : ∀ p ∈ done, p ∈ ps := by
  cases executes with
  | all goes => exact fun p hp ↦ hp
  | upTo stops well ended after =>
    intro p hp
    rcases List.mem_append.1 hp with hp | hp
    · exact List.mem_append_left _ hp
    · rw [List.mem_singleton.1 hp]
      exact List.mem_append_right _ List.mem_cons_self

/-- The records of a run describe the executed passes, in their order. -/
theorem describes_joined (indexed : b.Indexed) (overFlow : ∀ p ∈ done, p.OverFlow) :
    List.Forall₂ (fun r p ↦ Describes r p b) (joined c done b).records done := by
  rw [joined]
  induction done with
  | nil => exact .nil
  | cons p done ih =>
    obtain ⟨here, later⟩ := List.forall_mem_cons.1 overFlow
    obtain ⟨r, recorded, describes⟩ :=
      Manager.exists_record? fun _ ended ↦ here.recordable indexed ended
    rw [List.flatMap_cons, recorded]
    exact .cons describes (ih later)

/-! ## The status of records -/

theorem statusOf_eq_violation_iff :
    statusOf records = .violation ↔ ∃ r ∈ records, r.status = .failed := by
  have any : records.any (·.status == .failed) = true ↔ ∃ r ∈ records, r.status = .failed := by
    simp
  rw [statusOf, ← any]
  split
  · rename_i failed
    simp [failed]
  · rename_i failed
    split <;> simp [failed]

theorem statusOf_eq_success_iff :
    statusOf records = .success ↔ ∀ r ∈ records, r.status = .ok := by
  rw [statusOf]
  split
  · rename_i failed
    obtain ⟨r, hr, failed⟩ := List.any_eq_true.1 failed
    refine iff_of_false nofun fun all ↦ ?_
    rw [all r hr] at failed
    exact absurd failed (by decide)
  · split
    · rename_i other
      obtain ⟨r, hr, other⟩ := List.any_eq_true.1 other
      refine iff_of_false nofun fun all ↦ ?_
      rw [all r hr] at other
      exact absurd other (by decide)
    · rename_i none
      simpa using none

/-- A run never blames its surroundings. -/
theorem statusOf_ne_infrastructure : statusOf records ≠ .infrastructure := by
  rw [statusOf]
  split
  · nofun
  · split <;> nofun

theorem statusOf_eq_error (success : statusOf records ≠ .success)
    (violation : statusOf records ≠ .violation) : statusOf records = .error := by
  cases status : statusOf records with
  | success => exact absurd status success
  | error => rfl
  | infrastructure => exact absurd status statusOf_ne_infrastructure
  | violation => exact absurd status violation

/-! ## Whole runs -/

/-- What the status of a run and its output tell of the passes that were asked for. -/
structure Tells (c : RunConfig) (b : Ir.Bundle) (ps : List Pass) (status : ExitStatus)
    (output : String) : Prop where
  /-- The records are those of the executed passes, in order, and so are the lines. -/
  executed : ∃ done, Executes c b ps done ∧
    List.Forall₂ (fun r p ↦ Describes r p b) (Manager.run c ps b).records done ∧
    output = String.join (done.map fun p ↦ (p.execute b).text) ∧
    (status = .success ↔ done = ps ∧ ∀ p ∈ done, Succeeds p b) ∧
    (status = .violation ↔ ∃ p ∈ done, Fails p b)
  success : status = .success ↔ ∀ p ∈ ps, Succeeds p b
  keepsGoing : c.keepGoing = true → (status = .violation ↔ ∃ p ∈ ps, Fails p b)
  stops : c.keepGoing = false → (status = .violation ↔
    ∃ before p after, ps = before ++ p :: after ∧ (∀ q ∈ before, Succeeds q b) ∧ Fails p b)
  otherwise : status ≠ .success → status ≠ .violation → status = .error

theorem Fails.not_succeeds (fails : Fails p b) : ¬ Succeeds p b := by
  obtain ⟨f, ended, -⟩ := fails
  intro well
  cases well.symm.trans ended

theorem Executes.success_iff (executes : Executes c b ps done) :
    (∀ p ∈ done, Succeeds p b) ↔ ∀ p ∈ ps, Succeeds p b := by
  cases executes with
  | all goes => rfl
  | upTo stops well ended after =>
    refine iff_of_false ?_ ?_
    · exact fun all ↦ ended (all _ (List.mem_append_right _ List.mem_cons_self))
    · exact fun all ↦ ended (all _ (List.mem_append_right _ List.mem_cons_self))

/-- All passes that were asked for are executed if those that are end well. -/
theorem Executes.eq_of_succeeds (executes : Executes c b ps done)
    (well : ∀ p ∈ done, Succeeds p b) : done = ps := by
  cases executes with
  | all goes => rfl
  | upTo stops before ended after =>
    exact absurd (well _ (List.mem_append_right _ List.mem_cons_self)) ended

theorem Executes.fails_iff_of_keepGoing (executes : Executes c b ps done)
    (keepGoing : c.keepGoing = true) : (∃ p ∈ done, Fails p b) ↔ ∃ p ∈ ps, Fails p b := by
  cases executes with
  | all goes => rfl
  | upTo stops well ended after => rw [keepGoing] at stops; cases stops

/-- A run that stops executes no pass that fails but the first that does not end well. -/
theorem Executes.fails_iff_of_stops (executes : Executes c b ps done)
    (stops : c.keepGoing = false) : (∃ p ∈ done, Fails p b) ↔
      ∃ before p after, ps = before ++ p :: after ∧ (∀ q ∈ before, Succeeds q b) ∧ Fails p b := by
  cases executes with
  | all goes =>
    have well : ∀ p ∈ ps, Succeeds p b := goes.resolve_left (by simp [stops])
    constructor
    · rintro ⟨p, hp, fails⟩
      exact absurd (well p hp) fails.not_succeeds
    · rintro ⟨before, p, after, rfl, -, fails⟩
      exact ⟨p, List.mem_append_right _ List.mem_cons_self, fails⟩
  | @upTo before p _ well ended after =>
    constructor
    · rintro ⟨q, hq, fails⟩
      rcases List.mem_append.1 hq with hq | hq
      · exact absurd (well q hq) fails.not_succeeds
      · obtain rfl := List.mem_singleton.1 hq
        exact ⟨before, q, after, rfl, well, fails⟩
    · rintro ⟨before', p', after', same, well', fails⟩
      -- Both are the first pass that does not end well.
      have first : p = p' := first_not_unique same well ended well' fails.not_succeeds
      exact ⟨p, List.mem_append_right _ (List.mem_singleton_self p), first ▸ fails⟩

theorem succeeds_iff {r : RunRecord} (describes : Describes r p b) :
    r.status = .ok ↔ Succeeds p b := by
  rw [describes.ok, describes.fault, Succeeds]

theorem fails_iff {r : RunRecord} (describes : Describes r p b) :
    r.status = .failed ↔ Fails p b := by
  rw [describes.failed, describes.fault, Fails]

theorem status_success_iff (described : List.Forall₂ (Describes · · b) records done) :
    statusOf records = .success ↔ ∀ p ∈ done, Succeeds p b := by
  rw [statusOf_eq_success_iff]
  induction described with
  | nil => simp
  | cons here rest ih => rw [List.forall_mem_cons, List.forall_mem_cons, ih, succeeds_iff here]

theorem status_violation_iff (described : List.Forall₂ (Describes · · b) records done) :
    statusOf records = .violation ↔ ∃ p ∈ done, Fails p b := by
  rw [statusOf_eq_violation_iff]
  induction described with
  | nil => simp
  | cons here rest ih =>
    rw [List.exists_mem_cons_iff, List.exists_mem_cons_iff, ih, fails_iff here]

/-- **A run of passes over control flow tells by its status how they have ended.** -/
theorem tells_run (admits : Manager.Admits c b) (indexed : b.Indexed)
    (overFlow : ∀ p ∈ ps, p.OverFlow) :
    (Manager.run c ps b).aborted? = none ∧
      Tells c b ps (statusOf (Manager.run c ps b).records) (Manager.run c ps b).text := by
  obtain ⟨done, executes, ran⟩ := exists_executes admits indexed overFlow
  have described : List.Forall₂ (Describes · · b) (Manager.run c ps b).records done := by
    rw [ran]
    exact describes_joined indexed fun p hp ↦ overFlow p (executes.subset p hp)
  have text : (Manager.run c ps b).text = String.join (done.map fun p ↦ (p.execute b).text) := by
    rw [ran, RunOutcome.text, joined, Manager.join_flatMap_map]
    rfl
  have success := status_success_iff described
  have violation := status_violation_iff described
  refine ⟨by rw [ran, joined], ?_⟩
  constructor
  case executed =>
    refine ⟨done, executes, described, text, ?_, violation⟩
    rw [success]
    exact ⟨fun well ↦ ⟨executes.eq_of_succeeds well, well⟩, And.right⟩
  case success => rw [success, executes.success_iff]
  case keepsGoing =>
    intro keepGoing
    rw [violation, executes.fails_iff_of_keepGoing keepGoing]
  case stops =>
    intro stops
    rw [violation, executes.fails_iff_of_stops stops]
  case otherwise => exact statusOf_eq_error

/-! ## The command -/

theorem wellFormed_of_parse (parsed : Ir.Document.parse text = .ok d) : d.WellFormed := by
  rw [Ir.Document.parse] at parsed
  split at parsed
  · exact (Ir.Document.ofJson_eq_ok_iff.1 (mapError_eq_ok_iff.1 parsed)).wellFormed
  · cases parsed
  · cases parsed

theorem runPasses_of_not_mem (setting : Setting) (s : Session) (b : Ir.Bundle) (c : RunConfig)
    (stocked : r.Stocked)
    (unlisted : ∃ name ∈ names, name ∉ r.names) :
    ∃ halt, outcome setting s (runPasses r b names c) = (.error halt, s) ∧
      halt.status = .error := by
  obtain ⟨name, refused⟩ := mapM_create_of_not_mem stocked unlisted
  rw [runPasses, refused]
  exact ⟨_, rfl, status_notFound name r.names⟩

theorem runPasses_of_create (setting : Setting) (s : Session)
    (created : names.mapM r.create = .ok ps)
    (finished : (Manager.run c ps b).aborted? = none) :
    ∃ log, outcome setting s (runPasses r b names c) =
      (.ok (statusOf (Manager.run c ps b).records),
        { s with output := s.output ++ (Manager.run c ps b).text, log }) := by
  have made : outcome setting s (orHalt (reportHalt ∘ PassError.report) (names.mapM r.create)) =
      (.ok ps, s) := by
    rw [created]
    rfl
  rw [runPasses, outcome_bind_of_ok made, outcome_bind_of_ok (outcome_record _),
    outcome_bind_of_ok (outcome_print _), finished]
  exact ⟨_, rfl⟩

/-- What running passes from a registry comes to, from the session that it starts in: it is refused
before anything is written, or it tells how the passes have ended. -/
structure Truthful (r : Registry) (c : RunConfig) (b : Ir.Bundle) (names : List String)
    (s : Session) (ended : Except Halt ExitStatus × Session) : Prop where
  refuses : (∃ name ∈ names, name ∉ r.names) →
    endStatus ended.1 = .error ∧ ended.2.output = s.output
  runs : (∀ name ∈ names, name ∈ r.names) →
    ∃ ps text, names.mapM r.create = .ok ps ∧ ps.map Pass.name = names ∧ (∀ p ∈ ps, p.OverFlow) ∧
      ended.2.output = s.output ++ text ∧ Tells c b ps (endStatus ended.1) text

/-- Whatever a registry is stocked with, running passes from it is truthful. -/
theorem truthful_runPasses (stocked : r.Stocked) (wf : b.WellFormed) (setting : Setting)
    (s : Session) (c : RunConfig) (names : List String) :
    Truthful r c b names s (outcome setting s (runPasses r b names c)) := by
  constructor
  case refuses =>
    intro unlisted
    obtain ⟨halt, refused, error⟩ := runPasses_of_not_mem setting s b c stocked unlisted
    rw [refused]
    exact ⟨error, rfl⟩
  case runs =>
    intro listed
    obtain ⟨ps, created, same, overFlow⟩ := exists_mapM_create stocked listed
    obtain ⟨finished, tells⟩ := tells_run (c := c) (fun _ ↦ wf.validate_ok) wf.indexed overFlow
    obtain ⟨log, executed⟩ := runPasses_of_create setting s created finished
    rw [executed]
    exact ⟨ps, (Manager.run c ps b).text, created, same, overFlow, rfl, tells⟩

/-- Nor does it matter where the passes come from: units of any kind, found in whatever way, as long
as what they offer are passes over control flow. -/
theorem truthful_of_surroundings {o : Surroundings} (offers : o.OverFlow)
    (opened : (Installed.registry o c).1 = .ok r) (wf : b.WellFormed) (setting : Setting)
    (s : Session) (names : List String) :
    Truthful r c b names s (outcome setting s (runPasses r b names c)) :=
  truthful_runPasses (Installed.stocked_of_registry offers opened) wf setting s c names

/-- A run gets to its passes if there is a registry, and the bundle can be read. -/
theorem outcome_performRun (there : TextAt setting files path text)
    (parsed : Ir.Document.parse text = .ok d) (opened : registryOf setting files c = .ok r)
    (names : List String) :
    ∃ log, outcome setting { files } (performRun path names c) =
      outcome setting { files, log } (runPasses r (d.build 1).1 names c) := by
  obtain ⟨log, registry⟩ := outcome_openRegistry setting { files } c
  rw [opened] at registry
  obtain ⟨log', bundle⟩ :=
    TextAt.outcome_loadBundle (s := { files, log }) there parsed
  refine ⟨log', ?_⟩
  rw [performRun, outcome_bind_of_ok registry, outcome_bind_of_ok bundle]

/-- **The status of running passes tells the truth.** Where one of the names is not registered, that
is an error and nothing is written. Otherwise each name stands for a pass, and the status and the
output tell how these have ended. -/
theorem performRun_tells (there : TextAt setting files path text)
    (parsed : Ir.Document.parse text = .ok d) (opened : registryOf setting files c = .ok r)
    (verbosity : Nat) (names : List String) :
    let ended := (⟨verbosity, some (.run path names c)⟩ : Request).perform setting files
    ((∃ name ∈ names, name ∉ r.names) → ended.1 = .error ∧ ended.2.output = "") ∧
    ((∀ name ∈ names, name ∈ r.names) →
      ∃ ps, names.mapM r.create = .ok ps ∧ ps.map Pass.name = names ∧ (∀ p ∈ ps, p.OverFlow) ∧
        Tells c (d.build 1).1 ps ended.1 ended.2.output) := by
  intro ended
  have offers : (Installed.surroundings (files.unitFile setting.workingDirectory)).OverFlow :=
    Installed.overFlow_surroundings fun _ _ _ ↦ Files.Tree.overFlow_of_unitFile
  have wf := Ir.Document.wellFormed_build (wellFormed_of_parse parsed) 1
  obtain ⟨status, output⟩ := perform_eq setting files verbosity (.run path names c)
  obtain ⟨log, ran⟩ := outcome_performRun there parsed opened names
  have truthful := truthful_of_surroundings offers opened wf setting { files, log } names
  rw [perform, ran] at status output
  constructor
  · intro unlisted
    obtain ⟨error, silent⟩ := truthful.refuses unlisted
    exact ⟨status.trans error, output.trans silent⟩
  · intro listed
    obtain ⟨ps, text, created, same, overFlow, written, tells⟩ := truthful.runs listed
    have output : ended.2.output = text := (output.trans written).trans String.empty_append
    refine ⟨ps, created, same, overFlow, ?_⟩
    rw [output]
    exact status.symm ▸ tells

/-- A bundle of one function without blocks. -/
def oneFunction : String := "\x7b\"functions\":[\x7b\"name\":\"g\"\x7d]\x7d"

set_option maxRecDepth 4000 in
theorem textAt_oneFunction :
    TextAt { workingDirectory := [] } (fileWith oneFunction).files "f" oneFunction := by
  refine ⟨["f"], Text.encodeUtf8 oneFunction, ?_, ?_, ?_, ?_⟩ <;> cbv

set_option maxRecDepth 4000 in
theorem parse_oneFunction :
    Ir.Document.parse oneFunction = .ok { functions := [{ name := "g" }] } := by cbv

theorem exists_registryOf : ∃ r,
    registryOf { workingDirectory := [] } (fileWith oneFunction).files {} = .ok r ∧
      r.bindings.keys = ["print-cfg", "unittest-cfg-trans-llvm-phi-2"] := by
  have keys : (registryOf { workingDirectory := [] } (fileWith oneFunction).files {}).toOption.map
      (·.bindings.keys) = some ["print-cfg", "unittest-cfg-trans-llvm-phi-2"] := by
    decide +kernel
  cases opened : registryOf { workingDirectory := [] } (fileWith oneFunction).files {} with
  | error e =>
    rw [opened] at keys
    cases keys
  | ok r =>
    rw [opened] at keys
    exact ⟨r, rfl, Option.some.inj keys⟩

/-- A pass that is not there, and one that is run twice. -/
theorem performRun_tells_twice :
    let d : Ir.Document := { functions := [{ name := "g" }] }
    let run (names : List String) : Request := ⟨0, some (.run "f" names {})⟩
    let files := (fileWith oneFunction).files
    let setting : Setting := { workingDirectory := [] }
    ∃ r, TextAt setting files "f" oneFunction ∧ Ir.Document.parse oneFunction = .ok d ∧
      registryOf setting files {} = .ok r ∧
      ((run ["print-cfg", "slice"]).perform setting files).1 = .error ∧
      ((run ["print-cfg", "slice"]).perform setting files).2.output = "" ∧
      ∃ ps, ps.map Pass.name = ["print-cfg", "print-cfg"] ∧
        Tells {} (d.build 1).1 ps ((run ["print-cfg", "print-cfg"]).perform setting files).1
          ((run ["print-cfg", "print-cfg"]).perform setting files).2.output := by
  intro d run files setting
  obtain ⟨r, opened, keys⟩ := exists_registryOf
  have unlisted : ∃ name ∈ ["print-cfg", "slice"], name ∉ r.names := by
    simp [Registry.mem_names, keys]
  have listed : ∀ name ∈ ["print-cfg", "print-cfg"], name ∈ r.names := by
    simp [Registry.mem_names, keys]
  obtain ⟨status, output⟩ := (performRun_tells textAt_oneFunction parse_oneFunction opened 0
    ["print-cfg", "slice"]).1 unlisted
  obtain ⟨ps, -, same, -, tells⟩ := (performRun_tells textAt_oneFunction parse_oneFunction opened 0
    ["print-cfg", "print-cfg"]).2 listed
  exact ⟨r, textAt_oneFunction, parse_oneFunction, opened, status, output, ps, same, tells⟩

end Flowcheck.Command
