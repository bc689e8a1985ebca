import Flowcheck.Ir.Store

/-!
# Builders

A fluent way to fill a store. A bundle builder makes functions in its bundle and finally hands the
bundle out, frozen; a function builder calls blocks by name. Calls that take several elements stop
at the first one that is refused and keep what came before it.
-/

namespace Flowcheck.Ir

/-! ## Building a function -/

namespace FunctionBuilder

open Store

/-- The number of the block with a name in the body of a function. -/
def resolve (function : Nat) (name : String) : StoreM Nat := do
  let f ← getFunction function
  let b ← getBody f.body
  if !b.hasBlock name then throw (.unknownBlock name f.name)
  return (← b.blockByName name).uid

/-- Adds a block with statements, given by opcodes and operands. -/
def block (function : Nat) (name : String) (statements : List (String × List String)) :
    StoreM Unit := do
  let f ← getFunction function
  let bb ← addBlock f.body name
  statements.forM fun (opcode, operands) ↦ do
    addStatement bb (← newStatement opcode operands)

/-- Adds blocks without statements. -/
def blocks (function : Nat) (names : List String) : StoreM Unit :=
  names.forM fun name ↦ block function name []

/-- Adds a statement to the block with a name. -/
def statement (function : Nat) (name opcode : String) (operands : List String) : StoreM Unit := do
  let bb ← resolve function name
  addStatement bb (← newStatement opcode operands)

/-- Adds an edge between two names. -/
def edge (function : Nat) (src dst : String) : StoreM Unit := do
  let f ← getFunction function
  let s ← resolve function src
  let d ← resolve function dst
  addEdge f.body s d

/-- Adds several edges. -/
def edges (function : Nat) (pairs : List (String × String)) : StoreM Unit :=
  pairs.forM fun (src, dst) ↦ edge function src dst

/-- Makes the block with a name the entry. -/
def entry (function : Nat) (name : String) : StoreM Unit := do
  let f ← getFunction function
  setEntry f.body (← resolve function name)

/-- Makes the block with a name the exit. -/
def exit (function : Nat) (name : String) : StoreM Unit := do
  let f ← getFunction function
  setExit f.body (← resolve function name)

end FunctionBuilder

/-! ## Building a bundle -/

namespace BundleBuilder

open Store

/-- Starts a bundle. -/
def start (name : String) : StoreM Nat := newBundle name

/-- Adds a new function, unless the bundle has been handed out. -/
def function (bundle : Nat) (name : String) : StoreM Nat := do
  if (← getBundle bundle).built then throw .alreadyBuilt
  let f ← newFunction name none
  addFunction bundle f
  return f

/-- Hands the bundle out: checks it if asked to, and freezes it. -/
def build (bundle : Nat) (check : Bool) : StoreM Unit := do
  if check then validate bundle
  freezeBundle bundle
  putBundle bundle { ← getBundle bundle with built := true }

end BundleBuilder

end Flowcheck.Ir
