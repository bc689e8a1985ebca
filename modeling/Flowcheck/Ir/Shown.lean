import Flowcheck.Ir.Node

/-!
# Nodes as messages show them

A short form of each kind of node: its number, its name or text, and how much is in it.
-/

namespace Flowcheck.Ir

/-- A statement with its text. -/
def Statement.shown (s : Statement) : String :=
  s!"Statement(uid={s.uid}, {Text.quoted s.text})"

/-- A block with its name and the number of its statements. -/
def Block.shown (b : Block) : String :=
  s!"BasicBlock(uid={b.uid}, name={Text.quoted b.name}, nstmts={b.statements.length})"

/-- A body with the numbers of its blocks and edges. -/
def Body.shown (b : Body) : String :=
  s!"Code(uid={b.uid}, nblocks={b.blocks.length}, nedges={b.numEdges})"

/-- A function with its name and the number of its blocks. -/
def Function.shown (f : Function) : String :=
  s!"Function(uid={f.uid}, name={Text.quoted f.name}, nblocks={f.body.blocks.length})"

/-- A bundle with its name and the number of its functions. -/
def Bundle.shown (b : Bundle) : String :=
  s!"Bundle(uid={b.uid}, name={Text.quoted b.name}, nfunctions={b.functions.length})"

/-- A node of any kind. -/
def Node.shown : Node → String
  | .bundle b => b.shown
  | .function f => f.shown
  | .code b => b.shown
  | .block b => b.shown
  | .statement s => s.shown

end Flowcheck.Ir
