import Flowcheck.Ir.Builder

/-!
# Sequences of operations

Everything that a caller can do to a store, as data. A caller goes on after an operation that was
refused, so a sequence is performed to its end, each operation on the store that the one before it
left behind. Writing the adjacency maps directly is not among the operations.
-/

namespace Flowcheck.Ir

/-- A call that may change a store. The first five make nodes, those up to `validate` put them
together, and the others are the calls of the two builders. -/
inductive Operation where
  | newBundle (name : String)
  | newBody
  | newBlock (body : Nat) (name : String)
  | newFunction (name : String) (body? : Option Nat)
  | newStatement (opcode : String) (operands : List String)
  | addFunction (bundle function : Nat)
  | addBlock (body : Nat) (name : String)
  | addStatement (block statement : Nat)
  | addEdge (body src dst : Nat)
  | setEntry (body block : Nat)
  | setExit (body block : Nat)
  | freezeBody (body : Nat)
  | freezeBundle (bundle : Nat)
  | validate (bundle : Nat)
  | buildBlock (function : Nat) (name : String) (statements : List (String × List String))
  | buildBlocks (function : Nat) (names : List String)
  | buildStatement (function : Nat) (name opcode : String) (operands : List String)
  | buildEdge (function : Nat) (src dst : String)
  | buildEdges (function : Nat) (pairs : List (String × String))
  | buildEntry (function : Nat) (name : String)
  | buildExit (function : Nat) (name : String)
  | startBundle (name : String)
  | buildFunction (bundle : Nat) (name : String)
  | buildBundle (bundle : Nat) (check : Bool)
  deriving DecidableEq, Repr

/-- Performs an operation, without the number of a node that it makes. -/
def Operation.perform : Operation → StoreM Unit
  | newBundle name => discard (Store.newBundle name)
  | newBody => discard Store.newBody
  | newBlock body name => discard (Store.newBlock body name)
  | newFunction name body? => discard (Store.newFunction name body?)
  | newStatement opcode operands => discard (Store.newStatement opcode operands)
  | addFunction bundle function => Store.addFunction bundle function
  | addBlock body name => discard (Store.addBlock body name)
  | addStatement block statement => Store.addStatement block statement
  | addEdge body src dst => Store.addEdge body src dst
  | setEntry body block => Store.setEntry body block
  | setExit body block => Store.setExit body block
  | freezeBody body => Store.freezeBody body
  | freezeBundle bundle => Store.freezeBundle bundle
  | validate bundle => Store.validate bundle
  | buildBlock function name statements => FunctionBuilder.block function name statements
  | buildBlocks function names => FunctionBuilder.blocks function names
  | buildStatement function name opcode operands =>
    FunctionBuilder.statement function name opcode operands
  | buildEdge function src dst => FunctionBuilder.edge function src dst
  | buildEdges function pairs => FunctionBuilder.edges function pairs
  | buildEntry function name => FunctionBuilder.entry function name
  | buildExit function name => FunctionBuilder.exit function name
  | startBundle name => discard (BundleBuilder.start name)
  | buildFunction bundle name => discard (BundleBuilder.function bundle name)
  | buildBundle bundle check => BundleBuilder.build bundle check

namespace Store

/-- How an operation ends: its answer or error, and the store after it. -/
def exec {α : Type} (s : Store) (m : StoreM α) : Except Error α × Store := m.run.run s

/-- The answer of an operation, or its error. -/
def answer {α : Type} (s : Store) (m : StoreM α) : Except Error α := (s.exec m).1

/-- The store after an operation, whether or not it was refused. -/
def after {α : Type} (s : Store) (m : StoreM α) : Store := (s.exec m).2

/-- The store after a sequence of operations. -/
def run (s : Store) : List Operation → Store
  | [] => s
  | op :: ops => (s.after op.perform).run ops

end Store

end Flowcheck.Ir
