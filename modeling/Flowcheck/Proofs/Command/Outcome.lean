import Flowcheck.Command.Perform
import Flowcheck.Proofs.Checks

/-!
# Ends of commands

A command comes to a result or halts, and leaves a session behind either way. A sequence of commands
halts with its first part that does. What most commands start with is to read a file, and for a
bundle that is there and readable only the text decides what comes of it.
-/

namespace Flowcheck.Command

variable {α β : Type} {setting : Setting} {s s' : Session}

/-- How a command ends: what it comes to, and the session that it leaves behind. -/
def outcome (setting : Setting) (s : Session) (m : CommandM α) : Except Halt α × Session :=
  (m.run setting).run.run s

/-! ## Sequences -/

theorem outcome_bind_of_ok {m : CommandM α} {a : α} (h : outcome setting s m = (.ok a, s'))
    (f : α → CommandM β) : outcome setting s (m >>= f) = outcome setting s' (f a) :=
  run_bind_of_ok h fun a ↦ (f a).run setting

theorem outcome_bind_of_error {m : CommandM α} {halt : Halt}
    (h : outcome setting s m = (.error halt, s')) (f : α → CommandM β) :
    outcome setting s (m >>= f) = (.error halt, s') :=
  run_bind_of_error h fun a ↦ (f a).run setting

/-- A sequence that comes to something has come through its first part. -/
theorem exists_of_outcome_bind {m : CommandM α} {f : α → CommandM β} {b : β}
    (h : outcome setting s (m >>= f) = (.ok b, s')) :
    ∃ a s₁, outcome setting s m = (.ok a, s₁) ∧ outcome setting s₁ (f a) = (.ok b, s') := by
  rcases hm : outcome setting s m with ⟨e | a, s₁⟩
  · rw [outcome_bind_of_error hm] at h
    exact absurd (congrArg Prod.fst h) (by simp)
  · rw [outcome_bind_of_ok hm] at h
    exact ⟨a, s₁, rfl, h⟩

/-! ## Single steps -/

theorem outcome_orHalt {ε : Type} (halt : ε → Halt) (x : Except ε α) :
    outcome setting s (orHalt halt x) = (x.mapError halt, s) := by
  cases x <;> rfl

theorem outcome_ask : outcome setting s read = (.ok setting, s) := rfl

theorem outcome_get : outcome setting s get = (.ok s, s) := rfl

theorem outcome_record (entries : List LogEntry) :
    outcome setting s (record entries) = (.ok (), { s with log := s.log ++ entries }) := rfl

theorem outcome_print (text : String) :
    outcome setting s (print text) = (.ok (), { s with output := s.output ++ text }) := rfl

/-! ## Files -/

/-- The text of the file that a path leads to. -/
def TextAt (setting : Setting) (files : Files.Tree) (path text : String) : Prop :=
  ∃ steps bytes, expandHome setting (.ofText path) = some steps ∧
    steps.any (·.contains '\x00') = false ∧
      files.read (.ofSteps steps) = .ok bytes ∧ Text.readText bytes = .ok text

theorem exists_find_of_read {files : Files.Tree} {l : Files.Location} {bytes : List UInt8}
    (read : files.read l = .ok bytes) : ∃ n, files.find l = .ok n := by
  obtain ⟨n, found, -⟩ := bind_eq_ok_iff.1 read
  exact ⟨n, found⟩

variable {files : Files.Tree} {path text : String}

/-- A path is found and its file read whatever else is in the session. -/
theorem TextAt.exists_location (there : TextAt setting files path text) :
    ∃ l, ∀ s : Session, s.files = files →
      (∀ label, outcome setting s (locateExisting label path) = (.ok l, s)) ∧
        outcome setting s (readFile l) = (.ok text, s) := by
  obtain ⟨steps, bytes, expanded, clean, read, decoded⟩ := there
  obtain ⟨n, found⟩ := exists_find_of_read read
  refine ⟨.ofSteps steps, ?_⟩
  rintro s rfl
  have located : outcome setting s (locate path) = (.ok (.ofSteps steps), s) := by
    rw [locate, outcome_bind_of_ok outcome_ask]
    simp only [expanded, clean]
    rfl
  have opened : outcome setting s (orBlocked (s.files.read (.ofSteps steps))) =
      (.ok bytes, s) := by
    rw [read]
    rfl
  constructor
  · intro label
    rw [locateExisting, outcome_bind_of_ok located, outcome_bind_of_ok outcome_get, found]
    rfl
  · rw [readFile, outcome_bind_of_ok outcome_get, outcome_bind_of_ok opened, decoded]
    rfl

/-- A session whose only file is called `f`. -/
def fileWith (text : String) : Session :=
  { files := { nodes := .ofList [(["f"], .file (Text.encodeUtf8 text))] } }

/-! ## Bundles -/

theorem TextAt.outcome_loadBundle {d : Ir.Document} (there : TextAt setting s.files path text)
    (parsed : Ir.Document.parse text = .ok d) :
    ∃ log, outcome setting s (loadBundle path) = (.ok (d.build 1).1, { s with log }) := by
  obtain ⟨l, at_l⟩ := there.exists_location
  obtain ⟨located, read⟩ := at_l s rfl
  rw [loadBundle, outcome_bind_of_ok (located _), outcome_bind_of_ok read, parsed]
  exact ⟨_, rfl⟩

theorem TextAt.outcome_loadBundle_error {e : Ir.Document.LoadError}
    (there : TextAt setting s.files path text) (refused : Ir.Document.parse text = .error e) :
    ∃ l, outcome setting s (loadBundle path) = (.error (loadHalt l e), s) := by
  obtain ⟨l, at_l⟩ := there.exists_location
  obtain ⟨located, read⟩ := at_l s rfl
  rw [loadBundle, outcome_bind_of_ok (located _), outcome_bind_of_ok read, refused]
  exact ⟨l, rfl⟩

/-! ## Registries -/

/-- The registry of a configuration, with unit files from a session's files; or why there is
none. -/
def registryOf (setting : Setting) (files : Files.Tree) (c : RunConfig) :
    Except PassError Registry :=
  (Installed.registry (Installed.surroundings (files.unitFile setting.workingDirectory)) c).1

theorem outcome_openRegistry (setting : Setting) (s : Session) (c : RunConfig) :
    ∃ log, outcome setting s (openRegistry c) =
      ((registryOf setting s.files c).mapError registryHalt, { s with log }) := by
  rw [openRegistry, outcome_bind_of_ok outcome_get, outcome_bind_of_ok outcome_ask, registryOf]
  dsimp only
  obtain ⟨r, log⟩ := Installed.registry
    (Installed.surroundings (s.files.unitFile setting.workingDirectory)) c
  refine ⟨s.log ++ log, ?_⟩
  show outcome setting s (record log >>= fun _ ↦ orHalt registryHalt r) = _
  rw [outcome_bind_of_ok (outcome_record log), outcome_orHalt]

/-! ## Requests -/

/-- The status that the end of a command gives. -/
def endStatus : Except Halt ExitStatus → ExitStatus
  | .ok status => status
  | .error halt => halt.status

theorem perform_eq (setting : Setting) (files : Files.Tree) (verbosity : Nat)
    (invocation : Invocation) :
    let ended := outcome setting { files } (perform invocation)
    ((⟨verbosity, some invocation⟩ : Request).perform setting files).1 = endStatus ended.1 ∧
      ((⟨verbosity, some invocation⟩ : Request).perform setting files).2.output =
        ended.2.output := by
  simp only [Request.perform, outcome]
  rcases ((perform invocation).run setting).run.run { files } with ⟨halt | status, s⟩
  · exact ⟨rfl, rfl⟩
  · exact ⟨rfl, rfl⟩

end Flowcheck.Command
