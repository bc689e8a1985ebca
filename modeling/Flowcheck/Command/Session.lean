import Flowcheck.Files.Tree
import Flowcheck.Log
import Flowcheck.Pass.Unit
import Flowcheck.Text.Utf8

/-!
# Sessions

What a command can see and change: the files, its output and its log. A command that cannot go on
halts with a status and a last entry in the log. What it wrote before that stays.
-/

namespace Flowcheck.Command

/-! ## Results -/

/-- What a finished command reports to its caller. -/
inductive ExitStatus where
  | success
  | error
  | infrastructure
  | violation
  deriving DecidableEq, Repr

/-- The status as a number. -/
def ExitStatus.code : ExitStatus → Nat
  | .success => 0
  | .error => 1
  | .infrastructure => 2
  | .violation => 3

/-- Why a command does not go on. -/
structure Halt where
  status : ExitStatus
  message : String
  deriving DecidableEq, Repr

namespace Halt

/-- Halts at something wrong in the input. -/
def badInput (message : String) : Halt := ⟨.error, message⟩

/-- Halts at something wrong outside the input. -/
def badSurroundings (message : String) : Halt := ⟨.infrastructure, message⟩

/-- Halts at something that no command expects. -/
def unexpected (message : String) : Halt := badSurroundings ("Unhandled exception: " ++ message)

end Halt

/-! ## Sessions -/

/-- Where a command runs: the directory it works in and the home directories of users, the empty
name standing for the current one. -/
structure Setting where
  workingDirectory : Files.Location
  home? : String → Option Files.Location := fun _ ↦ none

/-- What a command leaves behind. -/
structure Session where
  files : Files.Tree := {}
  output : String := ""
  log : List LogEntry := []

/-- Commands act on a session and may halt. -/
abbrev CommandM := ReaderT Setting (ExceptT Halt (StateM Session))

/-- The name under which the command itself logs. -/
def logSource : String := "arbos"

/-- Adds to the log. -/
def record (entries : List LogEntry) : CommandM Unit :=
  modify fun s ↦ { s with log := s.log ++ entries }

/-- Adds an entry of the command's own to the log. -/
def note (level : LogLevel) (message : String) (timed : Bool := false) : CommandM Unit :=
  record [⟨level, logSource, message, timed⟩]

/-- Writes output. -/
def print (text : String) : CommandM Unit := modify fun s ↦ { s with output := s.output ++ text }

/-- Goes on only if there is a result. -/
def orHalt {ε α : Type} (halt : ε → Halt) : Except ε α → CommandM α
  | .ok a => return a
  | .error e => throw (halt e)

/-- Halts at an obstacle in the file tree. -/
def orBlocked {α : Type} (r : Except Files.Blocked α) : CommandM α :=
  orHalt (fun b ↦ .badSurroundings b.message) r

/-! ## Files -/

/-- The steps that a path means, with a first step `~` or `~name` replaced by a home directory. -/
def expandHome (setting : Setting) (p : Files.Path) : Option (List String) :=
  match p.isAbsolute, p.steps with
  | false, first :: rest =>
    if first.startsWith "~" then
      (setting.home? (first.drop 1).toString).map (· ++ rest)
    else some (p.fromRoot setting.workingDirectory)
  | _, _ => some (p.fromRoot setting.workingDirectory)

/-- The location that a path means. -/
def locate (path : String) : CommandM Files.Location := do
  match expandHome (← read) (.ofText path) with
  | none => throw (.unexpected "Could not determine home directory.")
  | some steps =>
    if steps.any (·.contains '\x00') then
      throw (.unexpected "lstat: embedded null character in path")
    return .ofSteps steps

/-- The location of something that must be there; `label` says what it is for. -/
def locateExisting (label path : String) : CommandM Files.Location := do
  let l ← locate path
  match (← get).files.find l with
  | .ok _ => return l
  | .error b =>
    if b.obstacle = .nameTooLong then throw (.badSurroundings b.message)
    else throw (.badSurroundings (label ++ " not found: " ++ l.text))

/-- The text of a file. -/
def readFile (l : Files.Location) : CommandM String := do
  let bytes ← orBlocked ((← get).files.read l)
  orHalt (fun e ↦ .unexpected e.message) (Text.readText bytes)

/-- Where output goes: a file, or the output of the command. -/
inductive Sink where
  | output
  | file (l : Files.Location)
  deriving DecidableEq, Repr

/-- Opens a sink. A file starts out empty, in a directory that is made if it is missing. -/
def openSink (path? : Option String) : CommandM Sink := do
  match path? with
  | none | some "-" => return .output
  | some path =>
    let l ← locate path
    -- Directories stay even when the file cannot be written.
    let t ← orBlocked ((← get).files.makeDirectories l.dropLast)
    modify fun s ↦ { s with files := t }
    let t ← orBlocked (t.write l [])
    modify fun s ↦ { s with files := t }
    return .file l

/-- Writes to a sink, after what is there. -/
def Sink.write (sink : Sink) (text : String) : CommandM Unit := do
  match sink with
  | .output => print text
  | .file l =>
    let t := (← get).files
    let before ← orBlocked (t.read l)
    let t ← orBlocked (t.write l (before ++ Text.encodeUtf8 text))
    modify fun s ↦ { s with files := t }

end Flowcheck.Command
