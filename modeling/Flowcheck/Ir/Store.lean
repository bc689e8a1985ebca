import Flowcheck.Ir.Consistency
import Flowcheck.Ir.Node

/-!
# Stores

Graphs under construction. Nodes are made one at a time and put together later, and the same node
may be handed to several owners, so what exists is kept in one store and nodes are addressed by
their numbers. The store also knows the owner of each node: the block of a statement, the body of a
block, the function of a body, the bundle of a function.

An operation that fails has still run: it may have used up a number, since every new node takes one
before its arguments are looked at. Apart from that a refused operation changes nothing.
-/

namespace Flowcheck.Ir

/-! ## Entries -/

/-- A statement and the block that it was added to. -/
structure StatementEntry where
  statement : Statement
  block? : Option Nat := none
  deriving DecidableEq, Repr

/-- A function, its body, and the bundle that it was last added to. -/
structure FunctionEntry where
  name : String
  body : Nat
  bundle? : Option Nat := none
  deriving DecidableEq, Repr

/-- A bundle, its functions in the order of their addition, and whether a builder has handed it
out. -/
structure BundleEntry where
  name : String
  functions : List Nat := []
  frozen : Bool := false
  built : Bool := false
  deriving DecidableEq, Repr

/-- All nodes made so far. `homes` gives the body of each block, also of a block that was made for
a body but never added to it; `strays` holds the blocks of the latter kind. -/
structure Store where
  nextUid : Nat := 1
  bundles : Assoc Nat BundleEntry := ∅
  functions : Assoc Nat FunctionEntry := ∅
  bodies : Assoc Nat Body := ∅
  homes : Assoc Nat Nat := ∅
  strays : List Block := []
  statements : Assoc Nat StatementEntry := ∅
  deriving DecidableEq, Repr

/-- An operation on a store: an answer or an error, and the store afterwards in either case. -/
abbrev StoreM := ExceptT Error (StateM Store)

namespace Store

/-! ## Looking up -/

/-- The block with a number. -/
def block? (s : Store) (uid : Nat) : Option Block := do
  let body ← s.homes.get? uid
  let b ← s.bodies.get? body
  b.block? uid <|> s.strays.find? fun bb ↦ bb.uid = uid

/-- The function with a number, with its body as it is now. -/
def function? (s : Store) (uid : Nat) : Option Function := do
  let f ← s.functions.get? uid
  return ⟨uid, f.name, ← s.bodies.get? f.body⟩

/-- The bundle with a number, with everything in it as it is now. -/
def bundle? (s : Store) (uid : Nat) : Option Bundle := do
  let b ← s.bundles.get? uid
  return ⟨uid, b.name, b.functions.filterMap s.function?, b.frozen⟩

/-- The node with a number. -/
def node? (s : Store) (uid : Nat) : Option Node :=
  (Node.bundle <$> s.bundle? uid) <|> (Node.function <$> s.function? uid) <|>
    (Node.code <$> s.bodies.get? uid) <|> (Node.block <$> s.block? uid) <|>
    ((fun e ↦ Node.statement e.statement) <$> s.statements.get? uid)

/-- The number of the node that a node was added to. -/
def owner? (s : Store) (uid : Nat) : Option Nat :=
  ((s.functions.get? uid).bind (·.bundle?)) <|>
    ((s.bodies.get? uid).bind fun b ↦ b.owner?.map (·.uid)) <|> s.homes.get? uid <|>
    ((s.statements.get? uid).bind (·.block?))

/-- The answer of a look-up, or the failure to find the number. -/
def demand {α : Type} (uid : Nat) (find : Store → Option α) : StoreM α := do
  match find (← get) with
  | some a => return a
  | none => throw (.noSuchNode uid)

/-- The body with a number. -/
def getBody (uid : Nat) : StoreM Body := demand uid fun s ↦ s.bodies.get? uid

/-- The block with a number. -/
def getBlock (uid : Nat) : StoreM Block := demand uid fun s ↦ s.block? uid

/-- The entry of a function. -/
def getFunction (uid : Nat) : StoreM FunctionEntry := demand uid fun s ↦ s.functions.get? uid

/-- The entry of a bundle. -/
def getBundle (uid : Nat) : StoreM BundleEntry := demand uid fun s ↦ s.bundles.get? uid

/-- The entry of a statement. -/
def getStatement (uid : Nat) : StoreM StatementEntry := demand uid fun s ↦ s.statements.get? uid

/-! ## Writing -/

/-- A number that no node has. -/
def fresh : StoreM Nat := do
  let s ← get
  set { s with nextUid := s.nextUid + 1 }
  return s.nextUid

/-- Writes a body under its number. -/
def putBody (b : Body) : StoreM Unit := modify fun s ↦ { s with bodies := s.bodies.insert b.uid b }

/-- Writes the entry of a function. -/
def putFunction (uid : Nat) (f : FunctionEntry) : StoreM Unit :=
  modify fun s ↦ { s with functions := s.functions.insert uid f }

/-- Writes the entry of a bundle. -/
def putBundle (uid : Nat) (b : BundleEntry) : StoreM Unit :=
  modify fun s ↦ { s with bundles := s.bundles.insert uid b }

/-- Writes the entry of a statement. -/
def putStatement (uid : Nat) (e : StatementEntry) : StoreM Unit :=
  modify fun s ↦ { s with statements := s.statements.insert uid e }

/-! ## New nodes -/

/-- A bundle without functions. -/
def newBundle (name : String) : StoreM Nat := do
  let uid ← fresh
  putBundle uid { name }
  return uid

/-- A body without blocks and without an owner. -/
def newBody : StoreM Nat := do
  let uid ← fresh
  putBody { uid }
  return uid

/-- A block that is in no body, for a body that will not list it. Any name will do. -/
def newBlock (body : Nat) (name : String) : StoreM Nat := do
  let _ ← getBody body
  let uid ← fresh
  modify fun s ↦ { s with
    homes := s.homes.insert uid body
    strays := s.strays ++ [⟨uid, name, []⟩] }
  return uid

/-- Gives a body, which must have no owner yet, to a new function. -/
def claim (uid : Nat) (name : String) (body : Nat) : StoreM Nat := do
  let b ← getBody body
  match b.owner? with
  | some owner => throw (.bodyTaken body owner.name)
  | none =>
    putBody { b with owner? := some ⟨uid, name⟩ }
    putFunction uid { name, body }
    return uid

/-- A function with the given body or with a new one. -/
def newFunction (name : String) (body? : Option Nat) : StoreM Nat := do
  let uid ← fresh
  if name = "" then throw .emptyFunctionName
  -- A new body gets its number after the function, and only if the name is acceptable.
  match body? with
  | some body => claim uid name body
  | none => claim uid name (← newBody)

/-- A statement that is in no block. -/
def newStatement (opcode : String) (operands : List String) : StoreM Nat := do
  let uid ← fresh
  if opcode = "" then throw .emptyOpcode
  putStatement uid { statement := ⟨uid, opcode, operands⟩ }
  return uid

/-! ## Putting together -/

/-- Adds a function to a bundle. The function counts as the bundle's from then on, whichever bundle
it was added to before. -/
def addFunction (bundle function : Nat) : StoreM Unit := do
  let b ← getBundle bundle
  let f ← getFunction function
  if b.frozen then throw (.frozenBundle b.name)
  let s ← get
  let taken := b.functions.filterMap fun uid ↦ (s.functions.get? uid).map FunctionEntry.name
  if f.name ∈ taken then throw (.duplicateFunction f.name b.name)
  putFunction function { f with bundle? := some bundle }
  putBundle bundle { b with functions := b.functions ++ [function] }

/-- Adds a new block to a body. -/
def addBlock (body : Nat) (name : String) : StoreM Nat := do
  let b ← getBody body
  b.checkMutable
  b.checkNewName name
  -- Unlike the other nodes a refused block uses up no number.
  let uid ← fresh
  putBody (b.pushBlock uid name)
  modify fun s ↦ { s with homes := s.homes.insert uid body }
  return uid

/-- Adds a statement to a block; a statement can be in one block only. -/
def addStatement (block statement : Nat) : StoreM Unit := do
  let body ← demand block fun s ↦ s.homes.get? block
  let b ← getBody body
  let e ← getStatement statement
  b.checkMutable
  match e.block? with
  | some owner =>
    let bb ← getBlock owner
    throw (.statementTaken statement bb.name)
  | none =>
    putStatement statement { e with block? := some block }
    putBody (b.pushStatement block e.statement)
    modify fun s ↦ { s with strays := appendStatement s.strays block e.statement }

/-- Adds an edge to a body. -/
def addEdge (body src dst : Nat) : StoreM Unit := do
  let b ← getBody body
  let s ← getBlock src
  let d ← getBlock dst
  putBody (← b.addEdge s d)

/-- Makes a block the entry of a body. -/
def setEntry (body block : Nat) : StoreM Unit := do
  let b ← getBody body
  let bb ← getBlock block
  putBody (← b.setEntry bb)

/-- Makes a block the exit of a body. -/
def setExit (body block : Nat) : StoreM Unit := do
  let b ← getBody body
  let bb ← getBlock block
  putBody (← b.setExit bb)

/-- Closes a body to changes. -/
def freezeBody (body : Nat) : StoreM Unit := do
  putBody (← getBody body).freeze

/-- Closes a bundle and the bodies of all its functions to changes. -/
def freezeBundle (bundle : Nat) : StoreM Unit := do
  let b ← getBundle bundle
  putBundle bundle { b with frozen := true }
  b.functions.forM fun function ↦ do
    freezeBody (← getFunction function).body

/-- Checks every body of a bundle. -/
def validate (bundle : Nat) : StoreM Unit := do
  let b ← demand bundle fun s ↦ s.bundle? bundle
  b.validate

/-! ## Writing adjacency maps directly -/

/-- The map with one number more in the set of a key. -/
def adjoinAt (m : Assoc Nat (List Nat)) (key uid : Nat) : Assoc Nat (List Nat) :=
  m.insert key (Body.adjoin (Body.recorded m key) uid)

/-- The map without a number in the set of a key. -/
def removeAt (m : Assoc Nat (List Nat)) (key uid : Nat) : Assoc Nat (List Nat) :=
  m.modify key fun uids ↦ uids.filter (· ≠ uid)

/-- Changes the two maps of a body without any check; the body may be inconsistent afterwards. -/
def rewire (body : Nat) (onSucc onPred : Assoc Nat (List Nat) → Assoc Nat (List Nat)) :
    StoreM Unit := do
  let b ← getBody body
  putBody { b with succ := onSucc b.succ, pred := onPred b.pred }

end Store

end Flowcheck.Ir
