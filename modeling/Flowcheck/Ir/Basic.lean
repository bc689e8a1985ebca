import Flowcheck.Assoc

/-!
# Control flow graphs

A bundle is a list of functions, a function has one body, a body is a list of named blocks with the
edges between them, and a block is a list of statements. Every node carries a number of its own, its
`uid`; two nodes are the same node exactly when their numbers agree.

The edges of a body live in the body, as two maps from a block's number to the numbers of its
successors and of its predecessors, and so does the index of its blocks by name. They are kept in
step by construction but are separate data, so that a body with inconsistent maps can be expressed
and diagnosed.
-/

namespace Flowcheck.Ir

/-! ## Kinds -/

/-- The kinds of nodes, outermost first. -/
inductive Kind where
  | bundle
  | function
  | code
  | block
  | statement
  deriving DecidableEq, Repr

namespace Kind

/-- All kinds, outermost first. -/
def all : List Kind := [.bundle, .function, .code, .block, .statement]

/-- The name of a kind in hooks and documents. -/
def name : Kind → String
  | .bundle => "bundle"
  | .function => "function"
  | .code => "code"
  | .block => "basic_block"
  | .statement => "statement"

/-- How many kinds lie outside a kind. -/
def depth : Kind → Nat
  | .bundle => 0
  | .function => 1
  | .code => 2
  | .block => 3
  | .statement => 4

/-- The kind of a name. -/
def ofName? (s : String) : Option Kind := all.find? fun k ↦ k.name = s

theorem mem_all (k : Kind) : k ∈ all := by cases k <;> simp [all]

@[simp] theorem ofName?_name (k : Kind) : ofName? k.name = some k := by cases k <;> rfl

end Kind

/-! ## Nodes -/

/-- One operation: an opcode and operands, which are opaque texts. -/
structure Statement where
  uid : Nat
  opcode : String
  operands : List String
  deriving DecidableEq, Repr

/-- The opcode and the operands with spaces between them. -/
def Statement.text (s : Statement) : String := " ".intercalate (s.opcode :: s.operands)

/-- A named list of statements. -/
structure Block where
  uid : Nat
  name : String
  statements : List Statement
  deriving DecidableEq, Repr

/-- The function that owns a body. -/
structure Owner where
  uid : Nat
  name : String
  deriving DecidableEq, Repr

/-- The blocks of a function in declaration order, and the edges between them. -/
structure Body where
  uid : Nat
  owner? : Option Owner := none
  blocks : List Block := []
  byName : Assoc String Nat := ∅
  succ : Assoc Nat (List Nat) := ∅
  pred : Assoc Nat (List Nat) := ∅
  entryUid? : Option Nat := none
  exitUid? : Option Nat := none
  frozen : Bool := false
  deriving DecidableEq, Repr

/-- A named body. -/
structure Function where
  uid : Nat
  name : String
  body : Body
  deriving DecidableEq, Repr

/-- The functions of one unit of code in declaration order. -/
structure Bundle where
  uid : Nat
  name : String
  functions : List Function
  frozen : Bool
  deriving DecidableEq, Repr

/-- The name of a bundle that was given none. -/
def defaultBundleName : String := "<bundle>"

end Flowcheck.Ir
