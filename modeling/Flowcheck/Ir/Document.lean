import Flowcheck.Ir.Consistency

/-!
# Documents

The JSON form of a bundle. Reading goes through a *document*, the description of a bundle in which
blocks are called by name and nothing has a number yet. All faults are found on the way from JSON to
the document; making the bundle is a total function of the document and of the first number to use,
so the numbers have no influence on anything else.

Optional fields have defaults: no functions, no blocks, no statements, no operands, no successors,
the first block as the entry and no exit. A fault in the shape is reported with its place.
-/

namespace Flowcheck.Ir

/-! ## Descriptions -/

/-- An operation without a number. -/
structure StatementSpec where
  opcode : String
  operands : List String
  deriving DecidableEq, Repr

/-- A block whose successors are called by name. -/
structure BlockSpec where
  name : String
  statements : List StatementSpec := []
  successors : List String := []
  deriving DecidableEq, Repr

/-- A function whose blocks are called by name. -/
structure FunctionSpec where
  name : String
  entry? : Option String := none
  exit? : Option String := none
  blocks : List BlockSpec := []
  deriving DecidableEq, Repr

/-- A bundle without numbers. -/
structure Document where
  name : String := defaultBundleName
  functions : List FunctionSpec := []
  deriving DecidableEq, Repr

namespace Document

/-! ## Reading -/

/-- The members of an object at a place. -/
def expectObject (path : Path) : Json → Except Error (List (String × Json))
  | .obj members => .ok members
  | j => .error (.badField path (.mistyped "dict" j.typeName))

/-- The items of a list at a place. -/
def expectList (path : Path) : Json → Except Error (List Json)
  | .list items => .ok items
  | j => .error (.badField path (.mistyped "list" j.typeName))

/-- The items of a member; none when the member is absent. -/
def listMember (path : Path) (key : String) (members : List (String × Json)) :
    Except Error (List Json) :=
  match Json.member? key members with
  | none => .ok []
  | some j => expectList (path ++ [.field key]) j

/-- The text of a member that has to be there and not empty. -/
def textMember (path : Path) (key : String) (members : List (String × Json)) :
    Except Error String :=
  match Json.member? key members with
  | some (.str s) => if s = "" then .error (.badField (path ++ [.field key]) .emptyText) else .ok s
  | _ => .error (.badField (path ++ [.field key]) .emptyText)

/-- Reads the items of a list from an index on, each with the place where it stands. -/
def readItems {α : Type} (path : Path) (list : String) (read : Path → Json → Except Error α)
    (index : Nat) : List Json → Except Error (List α)
  | [] => .ok []
  | j :: rest => do
    let a ← read (path ++ [.item list index]) j
    return a :: (← readItems path list read (index + 1) rest)

/-- Reads a statement. Operands of any kind count as their texts. -/
def readStatement (path : Path) (j : Json) : Except Error StatementSpec := do
  let members ← expectObject path j
  let opcode ← textMember path "op" members
  let operands ← listMember path "operands" members
  return ⟨opcode, operands.map Json.display⟩

/-- Reads a block without its successors. -/
def readBlock (path : Path) (j : Json) : Except Error BlockSpec := do
  let members ← expectObject path j
  let name ← textMember path "name" members
  let statements ← listMember path "statements" members
  return { name, statements := ← readItems path "statements" readStatement 0 statements }

/-- Reads the blocks of a function from an index on. `taken` are the names of those before. -/
def readBlocks (path : Path) (scope : String) (taken : List String) (index : Nat) :
    List Json → Except Error (List BlockSpec)
  | [] => .ok []
  | j :: rest => do
    let block ← readBlock (path ++ [.item "blocks" index]) j
    if block.name ∈ taken then throw (.duplicateBlock block.name scope)
    return block :: (← readBlocks path scope (taken ++ [block.name]) (index + 1) rest)

/-- Reads the name of one of the blocks. -/
def readBlockName (names : List String) (path : Path) (j : Json) : Except Error String :=
  match j with
  | .str s => if s ∈ names then .ok s else .error (.badField path (.unknownBlock j.shown))
  | _ => .error (.badField path (.unknownBlock j.shown))

/-- Reads the successors of a block. -/
def readSuccessors (names : List String) (path : Path) (j : Json) : Except Error (List String) := do
  let members ← expectObject path j
  let successors ← listMember path "successors" members
  readItems path "successors" (readBlockName names) 0 successors

/-- Reads a member that names a block, if it is there. -/
def blockMember (names : List String) (path : Path) (key : String)
    (members : List (String × Json)) : Except Error (Option String) :=
  match Json.member? key members with
  | none => .ok none
  | some j => some <$> readBlockName names (path ++ [.field key]) j

/-- Reads what stands in a function beside its name. All blocks are read before any successor, which
may be a later block. -/
def readFunctionBody (path : Path) (name : String) (members : List (String × Json)) :
    Except Error FunctionSpec := do
  let items ← listMember path "blocks" members
  let blocks ← readBlocks path ("function " ++ Text.quoted name) [] 0 items
  let names := blocks.map BlockSpec.name
  let successors ← readItems path "blocks" (readSuccessors names) 0 items
  let entry? ← blockMember names path "entry" members
  let exit? ← blockMember names path "exit" members
  let blocks := blocks.zipWith (fun block names ↦ { block with successors := names }) successors
  return { name, entry?, exit?, blocks }

/-- Reads the functions of a bundle from an index on. `taken` are the names of those before. -/
def readFunctions (bundle : String) (taken : List String) (index : Nat) :
    List Json → Except Error (List FunctionSpec)
  | [] => .ok []
  | j :: rest => do
    let path : Path := [.item "functions" index]
    let members ← expectObject path j
    let name ← textMember path "name" members
    if name ∈ taken then throw (.duplicateFunction name bundle)
    let f ← readFunctionBody path name members
    return f :: (← readFunctions bundle (taken ++ [name]) (index + 1) rest)

/-- Reads a document. A name of any kind counts as its text. -/
def ofJson (j : Json) : Except Error Document := do
  let members ← expectObject [] j
  let name := ((Json.member? "name" members).map Json.display).getD defaultBundleName
  let functions ← listMember [] "functions" members
  return { name, functions := ← readFunctions name [] 0 functions }

/-- Why no document is read off a text. That an integer in it has too many digits is not reported as
an error of the document. -/
inductive LoadError where
  | refused (e : Error)
  | tooManyDigits (digits : Nat)
  deriving DecidableEq, Repr

/-- The failure as a report. -/
def LoadError.report : LoadError → Report
  | .refused e => e.report
  | .tooManyDigits digits => .plain .wrongValue (Text.tooManyDigits digits)

/-- Reads a document from its text. In names and operands U+FFFD stands for an escape of half a
character; where that matters, the text is required to be `Json.Lossless`. -/
def parse (text : String) : Except LoadError Document :=
  match Json.parse text with
  | .ok j => (ofJson j).mapError .refused
  | .error (.malformed cause) => .error (.refused (.badJson cause))
  | .error (.tooManyDigits digits) => .error (.tooManyDigits digits)

end Document

/-! ## Making the bundle -/

/-- Adds a block with its statements; `next` is the first free number before and after. -/
def BlockSpec.addTo (spec : BlockSpec) (b : Body) (next : Nat) : Body × Nat :=
  spec.statements.foldl
    (fun (b, n) s ↦ (b.pushStatement next ⟨n, s.opcode, s.operands⟩, n + 1))
    (b.pushBlock next spec.name, next + 1)

/-- The body with an edge between two names; nothing changes for a name without a block. -/
def Body.linkNames (b : Body) (src dst : String) : Body :=
  match b.named? src, b.named? dst with
  | some s, some d => b.link s.uid d.uid
  | _, _ => b

/-- The number of a name. -/
def Body.uidOf? (b : Body) (name : String) : Option Nat := (b.named? name).map Block.uid

/-- The function of a description, and the first number not used by it. -/
def FunctionSpec.build (spec : FunctionSpec) (next : Nat) : Function × Nat :=
  -- The function comes first, then its body, then each block before its statements.
  let bare : Body := { uid := next + 1, owner? := some ⟨next, spec.name⟩ }
  let (b, after) := spec.blocks.foldl (fun (b, n) block ↦ block.addTo b n) (bare, next + 2)
  let b := spec.blocks.foldl
    (fun b block ↦ block.successors.foldl (fun b dst ↦ b.linkNames block.name dst) b) b
  let b := { b with
    entryUid? := spec.entry? >>= b.uidOf?
    exitUid? := spec.exit? >>= b.uidOf?
    frozen := true }
  (⟨next, spec.name, b⟩, after)

/-- The functions of several descriptions. -/
def FunctionSpec.buildAll : List FunctionSpec → Nat → List Function × Nat
  | [], next => ([], next)
  | spec :: rest, next =>
    let (f, next) := spec.build next
    let (fs, next) := buildAll rest next
    (f :: fs, next)

/-- The frozen bundle of a document, numbered from `next`, and the first number not used by it. -/
def Document.build (d : Document) (next : Nat) : Bundle × Nat :=
  let (functions, after) := FunctionSpec.buildAll d.functions (next + 1)
  (⟨next, d.name, functions, true⟩, after)

/-! ## Describing a bundle -/

/-- The statement without its number. -/
def Statement.spec (s : Statement) : StatementSpec := ⟨s.opcode, s.operands⟩

/-- A function without numbers; the successors of a block come in declaration order. -/
def Function.spec (f : Function) : FunctionSpec where
  name := f.name
  entry? := f.body.entry?.map Block.name
  exit? := f.body.exit?.map Block.name
  blocks := f.body.blocks.map fun bb ↦
    { name := bb.name
      statements := bb.statements.map Statement.spec
      successors := (f.body.targets bb.uid).map Block.name }

/-- The bundle without numbers. -/
def Bundle.document (b : Bundle) : Document := ⟨b.name, b.functions.map Function.spec⟩

/-! ## Writing -/

/-- A list member; left out when it would be empty. -/
def listField (key : String) (items : List Json) : List (String × Json) :=
  if items.isEmpty then [] else [(key, .list items)]

/-- A text member; left out when there is no text. -/
def textField (key : String) (text? : Option String) : List (String × Json) :=
  match text? with
  | some s => [(key, .str s)]
  | none => []

/-- A statement as JSON. -/
def StatementSpec.toJson (s : StatementSpec) : Json :=
  .obj [("op", .str s.opcode), ("operands", .list (s.operands.map .str))]

/-- A block as JSON. -/
def BlockSpec.toJson (b : BlockSpec) : Json :=
  .obj (("name", .str b.name) :: listField "statements" (b.statements.map StatementSpec.toJson) ++
    listField "successors" (b.successors.map .str))

/-- A function as JSON. -/
def FunctionSpec.toJson (f : FunctionSpec) : Json :=
  .obj (("name", .str f.name) :: textField "entry" f.entry? ++ textField "exit" f.exit? ++
    [("blocks", .list (f.blocks.map BlockSpec.toJson))])

/-- A document as JSON. -/
def Document.toJson (d : Document) : Json :=
  .obj [("name", .str d.name), ("functions", .list (d.functions.map FunctionSpec.toJson))]

/-- The bundle as JSON. -/
def Bundle.toJson (b : Bundle) : Json := b.document.toJson

end Flowcheck.Ir
