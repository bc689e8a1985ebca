import Flowcheck.Ir.Basic
import Flowcheck.Ir.Error

/-!
# Bodies

The changes that a body accepts while it is not frozen, and the questions it answers. A change
checks first and writes afterwards, so a refused change leaves nothing behind. An edge is written in
both directions at once.

Blocks are handed in and out as values; which body a block belongs to is decided by its number
alone.
-/

namespace Flowcheck.Ir

/-- The statement at an index from the front, or, for a negative index, from the end. -/
def Block.statementAt (bb : Block) (index : Int) : Except Error Statement :=
  let place := if index < 0 then index + bb.statements.length else index
  match if place < 0 then none else bb.statements[place.toNat]? with
  | some s => .ok s
  | none => .error .statementIndex

/-- The block with one more statement at the end if it has the number `uid`. -/
def Block.receive (uid : Nat) (s : Statement) (bb : Block) : Block :=
  if bb.uid = uid then { bb with statements := bb.statements ++ [s] } else bb

/-- The blocks with one more statement at the end of the one with the number `uid`. -/
def appendStatement (blocks : List Block) (uid : Nat) (s : Statement) : List Block :=
  blocks.map (Block.receive uid s)

namespace Body

/-! ## Blocks -/

/-- How messages name the body. -/
def scope (b : Body) : String :=
  match b.owner? with
  | some owner => "function " ++ Text.quoted owner.name
  | none => "code " ++ toString b.uid

/-- The block with a number. -/
def block? (b : Body) (uid : Nat) : Option Block := b.blocks.find? fun bb ↦ bb.uid = uid

/-- The block with a name. -/
def named? (b : Body) (name : String) : Option Block := b.byName.get? name >>= b.block?

/-- Whether some block has the name. -/
def hasBlock (b : Body) (name : String) : Bool := b.byName.contains name

/-- The block with a name, or the failure to find it. -/
def blockByName (b : Body) (name : String) : Except Error Block :=
  match b.byName.get? name with
  | some uid =>
    match b.block? uid with
    | some bb => .ok bb
    | none => .error (.danglingUid uid)
  | none => .error (.blockNotFound name b.scope)

/-- How consistency reports name a number. -/
def label (b : Body) (uid : Nat) : BlockLabel :=
  match b.block? uid with
  | some bb => .named bb.name
  | none => .unknown uid

/-- The first block, unless another one was made the entry. -/
def entry? (b : Body) : Option Block :=
  match b.entryUid? with
  | some uid => b.block? uid
  | none => b.blocks.head?

/-- The exit, if one was made so. -/
def exit? (b : Body) : Option Block := b.exitUid? >>= b.block?

/-! ## Changes -/

/-- Refuses when the body is frozen. -/
def checkMutable (b : Body) : Except Error Unit :=
  if b.frozen then .error (.frozenBody b.scope) else .ok ()

/-- Refuses a block that is not one of the body's own. -/
def checkOwn (b : Body) (role : BlockRole) (bb : Block) : Except Error Unit :=
  if (b.block? bb.uid).isSome then .ok () else .error (.foreignBlock role bb.name b.scope)

/-- Refuses a name under which no block can be added. -/
def checkNewName (b : Body) (name : String) : Except Error Unit :=
  if name = "" then .error .emptyBlockName
  else if b.hasBlock name then .error (.duplicateBlock name b.scope)
  else .ok ()

/-- The body with one more block at the end, without edges and statements. -/
def pushBlock (b : Body) (uid : Nat) (name : String) : Body :=
  { b with
    blocks := b.blocks ++ [⟨uid, name, []⟩]
    byName := b.byName.insert name uid
    succ := b.succ.insert uid []
    pred := b.pred.insert uid [] }

/-- Writes a number into an ordered set. -/
def adjoin (uids : List Nat) (uid : Nat) : List Nat :=
  if uid ∈ uids then uids else uids ++ [uid]

/-- The body with the edge from one number to another, in both maps. -/
def link (b : Body) (src dst : Nat) : Body :=
  { b with
    succ := b.succ.modify src fun uids ↦ adjoin uids dst
    pred := b.pred.modify dst fun uids ↦ adjoin uids src }

/-- The body with one more statement at the end of a block. -/
def pushStatement (b : Body) (block : Nat) (s : Statement) : Body :=
  { b with blocks := appendStatement b.blocks block s }

/-- Adds a block with a number that no node has yet. -/
def addBlock (b : Body) (uid : Nat) (name : String) : Except Error Body := do
  b.checkMutable
  b.checkNewName name
  return b.pushBlock uid name

/-- Adds an edge; an edge that is there already stays as it is. -/
def addEdge (b : Body) (src dst : Block) : Except Error Body := do
  b.checkMutable
  b.checkOwn .plain src
  b.checkOwn .plain dst
  return b.link src.uid dst.uid

/-- Makes a block the entry. -/
def setEntry (b : Body) (bb : Block) : Except Error Body := do
  b.checkMutable
  b.checkOwn .entry bb
  return { b with entryUid? := some bb.uid }

/-- Makes a block the exit. -/
def setExit (b : Body) (bb : Block) : Except Error Body := do
  b.checkMutable
  b.checkOwn .exit bb
  return { b with exitUid? := some bb.uid }

/-- The body, closed to changes. -/
def freeze (b : Body) : Body := { b with frozen := true }

/-! ## Neighbours -/

/-- The successor numbers of an own block. -/
def successorUids (b : Body) (bb : Block) : Except Error (List Nat) := do
  b.checkOwn .plain bb
  match b.succ.get? bb.uid with
  | some uids => return uids
  | none => throw (.danglingUid bb.uid)

/-- The predecessor numbers of an own block. -/
def predecessorUids (b : Body) (bb : Block) : Except Error (List Nat) := do
  b.checkOwn .plain bb
  match b.pred.get? bb.uid with
  | some uids => return uids
  | none => throw (.danglingUid bb.uid)

/-- The blocks with the given numbers, in their order; each has to be an own block. -/
def blocksOf (b : Body) (uids : List Nat) : Except Error (List Block) :=
  uids.mapM fun uid ↦
    match b.block? uid with
    | some bb => .ok bb
    | none => .error (.danglingUid uid)

/-- The own blocks with the given numbers, in declaration order. -/
def select (b : Body) (uids : List Nat) : List Block := b.blocks.filter fun bb ↦ bb.uid ∈ uids

/-- The set of successors of a block, in the order in which the edges were added. -/
def successors (b : Body) (bb : Block) : Except Error (List Block) := do
  b.blocksOf (← b.successorUids bb)

/-- The set of predecessors of a block, in the order in which the edges were added. -/
def predecessors (b : Body) (bb : Block) : Except Error (List Block) := do
  b.blocksOf (← b.predecessorUids bb)

/-- The successors of a block in declaration order. -/
def nextBlocks (b : Body) (bb : Block) : Except Error (List Block) := do
  return b.select (← b.successorUids bb)

/-- The predecessors of a block in declaration order. -/
def prevBlocks (b : Body) (bb : Block) : Except Error (List Block) := do
  return b.select (← b.predecessorUids bb)

/-- The successors of a number in declaration order; none for a number without an entry. -/
def targets (b : Body) (uid : Nat) : List Block := b.select ((b.succ.get? uid).getD [])

/-- The predecessors of a number in declaration order; none for a number without an entry. -/
def sources (b : Body) (uid : Nat) : List Block := b.select ((b.pred.get? uid).getD [])

/-- Whether a block has no successor. -/
def isTerminal (b : Body) (bb : Block) : Bool := ((b.succ.get? bb.uid).getD []).isEmpty

/-- The edges: sources in declaration order, and the targets of each in declaration order. -/
def edges (b : Body) : List (Block × Block) :=
  b.blocks.flatMap fun src ↦ (b.targets src.uid).map (src, ·)

/-- How many successors are recorded altogether. -/
def numEdges (b : Body) : Nat := b.succ.values.flatten.length

end Body

end Flowcheck.Ir
