import Flowcheck.Ir.Body

/-!
# Nodes of any kind

The five kinds of node as one type, for whoever treats them alike: a walk, a store, a message.
-/

namespace Flowcheck.Ir

/-- A node of any kind. -/
inductive Node where
  | bundle (b : Bundle)
  | function (f : Function)
  | code (b : Body)
  | block (b : Block)
  | statement (s : Statement)

namespace Node

/-- The kind of a node. -/
def kind : Node → Kind
  | .bundle _ => .bundle
  | .function _ => .function
  | .code _ => .code
  | .block _ => .block
  | .statement _ => .statement

/-- The number of a node. -/
def uid : Node → Nat
  | .bundle b => b.uid
  | .function f => f.uid
  | .code b => b.uid
  | .block b => b.uid
  | .statement s => s.uid

/-- The nodes directly inside a node, in declaration order. -/
def children : Node → List Node
  | .bundle b => b.functions.map .function
  | .function f => [.code f.body]
  | .code b => b.blocks.map .block
  | .block b => b.statements.map .statement
  | .statement _ => []

/-- The name of a node: of a body its owner's, of a statement its text. -/
def label? : Node → Option String
  | .bundle b => some b.name
  | .function f => some f.name
  | .code b => b.owner?.map Owner.name
  | .block b => some b.name
  | .statement s => some s.text

theorem depth_of_mem_children {n c : Node} (h : c ∈ n.children) :
    c.kind.depth = n.kind.depth + 1 := by
  cases n with
  | bundle b => obtain ⟨f, _, rfl⟩ := List.mem_map.1 h; rfl
  | function f => rw [children, List.mem_singleton] at h; subst h; rfl
  | code b => obtain ⟨bb, _, rfl⟩ := List.mem_map.1 h; rfl
  | block b => obtain ⟨s, _, rfl⟩ := List.mem_map.1 h; rfl
  | statement s => simp [children] at h

end Node

end Flowcheck.Ir
