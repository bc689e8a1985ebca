import Flowcheck.Assoc
import Flowcheck.Files.Path
import Flowcheck.Text.Quoted

/-!
# File trees

A tree of directories and files, as far as a command can see or change it. Following a path looks at
every directory on the way, and so does each operation; a failed one says what is in the way and
which location it was about.
-/

namespace Flowcheck.Files

/-- What a location can hold. -/
inductive Node where
  | directory
  | file (bytes : List UInt8)
  deriving DecidableEq, Repr

/-! ## Obstacles -/

/-- Why a location cannot be used. -/
inductive Obstacle where
  | missing
  | taken
  | notDirectory
  | isDirectory
  | nameTooLong
  deriving DecidableEq, Repr

namespace Obstacle

/-- The number that systems give the obstacle. -/
def number : Obstacle → Nat
  | .missing => 2
  | .taken => 17
  | .notDirectory => 20
  | .isDirectory => 21
  | .nameTooLong => 36

/-- The obstacle as a phrase. -/
def phrase : Obstacle → String
  | .missing => "No such file or directory"
  | .taken => "File exists"
  | .notDirectory => "Not a directory"
  | .isDirectory => "Is a directory"
  | .nameTooLong => "File name too long"

end Obstacle

/-- An obstacle at a location. -/
structure Blocked where
  obstacle : Obstacle
  location : Location
  deriving DecidableEq, Repr

/-- The number, the phrase and the location. -/
def Blocked.message (b : Blocked) : String :=
  s!"[Errno {b.obstacle.number}] {b.obstacle.phrase}: {Text.quoted b.location.text}"

/-! ## Trees -/

/-- A tree, by location. The root is always there. -/
structure Tree where
  nodes : Assoc Location Node := ∅

namespace Tree

/-- What a location holds. -/
def node? (t : Tree) (l : Location) : Option Node :=
  if l = [] then some .directory else t.nodes.get? l

/-- Changes what a location holds. -/
def put (t : Tree) (l : Location) (n : Node) : Tree := ⟨t.nodes.insert l n⟩

theorem node?_put {t : Tree} {l l' : Location} {n : Node} (h : l ≠ []) :
    (t.put l n).node? l' = if l = l' then some n else t.node? l' := by
  by_cases hl : l' = []
  · simp [node?, hl, h]
  · simp [node?, hl, put, Assoc.get?_insert]

/-- The length in bytes that a name may have. -/
def maxNameBytes : Nat := 255

/-- Follows steps from a location. Every location left behind must be a directory. -/
def follow (t : Tree) (here : Location) : List String → Except Obstacle (Location × Node)
  | [] =>
    match t.node? here with
    | some n => .ok (here, n)
    | none => .error .missing
  | step :: rest =>
    match t.node? here with
    | none => .error .missing
    | some (.file _) => .error .notDirectory
    | some .directory =>
      if step.utf8ByteSize ≤ maxNameBytes then t.follow (here.step step) rest
      else .error .nameTooLong

/-- What is found at a location. -/
def find (t : Tree) (l : Location) : Except Blocked Node :=
  ((·.2) <$> t.follow [] l).mapError (⟨·, l⟩)

/-- Whether there is a directory at a location. -/
def isDirectory (t : Tree) (l : Location) : Bool :=
  match t.find l with
  | .ok .directory => true
  | _ => false

/-- The bytes of a file. -/
def read (t : Tree) (l : Location) : Except Blocked (List UInt8) := do
  match ← t.find l with
  | .file bytes => return bytes
  | .directory => throw ⟨.isDirectory, l⟩

/-- Writes a file, new or old, in a directory that is there. -/
def write (t : Tree) (l : Location) (bytes : List UInt8) : Except Blocked Tree :=
  match t.find l with
  | .ok (.file _) => .ok (t.put l (.file bytes))
  | .ok .directory => .error ⟨.isDirectory, l⟩
  | .error b =>
    if b.obstacle = .missing ∧ t.isDirectory l.dropLast then .ok (t.put l (.file bytes))
    else .error b

/-- Makes a directory in one that is there. -/
def makeDirectory (t : Tree) (l : Location) : Except Blocked Tree :=
  match t.find l with
  | .ok _ => .error ⟨.taken, l⟩
  | .error b =>
    if b.obstacle = .missing ∧ t.isDirectory l.dropLast then .ok (t.put l .directory)
    else .error b

/-- Makes a directory and those that lead to it, as far as they are missing. The names of the
location come in reverse, the innermost first. -/
def makeAll (t : Tree) : List String → Except Blocked Tree
  | [] => .ok t
  | name :: outer =>
    let l := (name :: outer).reverse
    match t.makeDirectory l with
    | .ok t => .ok t
    -- Something on the way is missing: make that first.
    | .error ⟨.missing, _⟩ => do (← t.makeAll outer).makeDirectory l
    | .error b => if t.isDirectory l then .ok t else .error b

/-- Makes a directory and those that lead to it. -/
def makeDirectories (t : Tree) (l : Location) : Except Blocked Tree := t.makeAll l.reverse

/-- Puts a file or directory in place together with the directories that lead to it. -/
def place (t : Tree) (l : Location) (n : Node) : Tree :=
  match t.makeDirectories l.dropLast with
  | .ok t => t.put l n
  | .error _ => t

/-- The files below a location, with the rest of their locations. -/
def filesBelow (t : Tree) (l : Location) : List (Location × List UInt8) :=
  t.nodes.entries.filterMap fun (l', n) ↦
    match n with
    | .file bytes => if l.isPrefixOf l' then some (l'.drop l.length, bytes) else none
    | .directory => none

end Tree

end Flowcheck.Files
