import Flowcheck.Command.Perform

/-!
# The command line

The outermost layer. It takes a picture of the files that a request names, performs the request on
the picture, and carries out what came of it: changed files are written, output is printed, and the
log goes to the error stream.
-/

namespace Flowcheck.Command

/-! ## Usage -/

/-- How the command is used. -/
def usage : String :=
  let names := "|".intercalate (Subcommand.all.map (·.name))
  "usage: arbos [-h] [--version] [-v] (" ++ names ++ ") ..."

/-! ## Named files -/

/-- The paths that an invocation names. -/
def Invocation.paths : Invocation → List String
  | .run bundle _ config => bundle :: config.units
  | .verify bundle oracle? _ _ _ => bundle :: oracle?.toList
  | .oracle bundle _ _ output? => bundle :: output?.toList
  | .passes _ config => config.units
  | .parse source _ output? => source :: output?.toList
  | .matching _ source => [source]

/-- A location and all locations above it, the outermost first. -/
def withParents (l : Files.Location) : List Files.Location :=
  (List.range (l.length + 1)).map l.take

/-- What is at a location at present. -/
def nodeAt? (l : Files.Location) : IO (Option Files.Node) := do
  try
    let bytes ← IO.FS.readBinFile l.text
    return some (.file bytes.toList)
  catch
    | .inappropriateType .. => return some .directory
    | _ => return none

/-- Adds what is at a location and above it to a picture. -/
def picture (t : Files.Tree) (l : Files.Location) : IO Files.Tree := do
  let mut t := t
  for outer in withParents l do
    if outer ≠ [] then
      if let some n ← nodeAt? outer then t := t.put outer n
  return t

/-- Writes the files of a tree that differ from those of a picture. -/
def writeChanges (before after : Files.Tree) : IO Unit := do
  for (l, bytes) in after.filesBelow [] do
    unless before.node? l = some (.file bytes) do
      IO.FS.createDirAll (Files.Location.text l.dropLast)
      IO.FS.writeBinFile l.text ⟨bytes.toArray⟩

/-! ## Running -/

/-- Where the command runs. -/
def presentSetting : IO Setting := do
  let workingDirectory := (Files.Path.ofText (← IO.currentDir).toString).steps
  let home? := (← IO.getEnv "HOME").map fun path ↦ (Files.Path.ofText path).steps
  return { workingDirectory, home? := fun user ↦ if user = "" then home? else none }

/-- Performs a request on the files there are. -/
def Request.carryOut (r : Request) : IO UInt32 := do
  let setting ← presentSetting
  let mut before : Files.Tree := {}
  for path in (r.invocation?.map Invocation.paths).getD [] do
    if let some steps := expandHome setting (.ofText path) then
      before ← picture before (.ofSteps steps)
  let (status, s) := r.perform setting before
  writeChanges before s.files
  IO.print s.output
  for entry in s.log do
    IO.eprintln (entry.line "0.000")
  if r.invocation?.isNone then IO.eprintln usage
  return status.code.toUInt32

end Flowcheck.Command

open Flowcheck.Command in
/-- Reads the arguments and performs the request that they make. -/
def main (args : List String) : IO UInt32 := do
  match Request.ofArguments args with
  | .ok r => r.carryOut
  | .error e =>
    IO.print e.output
    if e = .help then IO.println usage
    if e = .misuse then IO.eprintln usage
    return e.code.toUInt32
