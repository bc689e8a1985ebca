import Flowcheck.Proofs.Ir.Step

/-!
# Well-formed stores

A store keeps every relation between nodes twice: a body lists its blocks and the blocks have a
home, a block lists its statements and the statements point back, a function has a body and the body
an owner. `WellFormed` says that the two sides agree, that every body is well formed in itself, and
that no number is given away twice. It is stated in five parts, each of which reads only a part of
the store and is kept by whatever leaves that part alone.
-/

namespace Flowcheck.Ir.Store

/-! ## Views -/

/-- The numbers of all nodes, kind by kind. -/
def uids (s : Store) : List Nat :=
  s.bundles.keys ++ s.functions.keys ++ s.bodies.keys ++ s.homes.keys ++ s.statements.keys

/-- A number that no node has. -/
structure Unused (s : Store) (uid : Nat) : Prop where
  bundle : uid ∉ s.bundles.keys
  function : uid ∉ s.functions.keys
  body : uid ∉ s.bodies.keys
  home : uid ∉ s.homes.keys
  statement : uid ∉ s.statements.keys

/-- The blocks that the body with a number lists. -/
def blocksOf (s : Store) (body : Nat) : List Block := ((s.bodies.get? body).map Body.blocks).getD []

/-- The owner that the body with a number records. -/
def ownerOf (s : Store) (body : Nat) : Option Owner := (s.bodies.get? body).bind Body.owner?

/-- Whether a block is in the store, in a body or in none. -/
def Holds (s : Store) (bb : Block) : Prop := (∃ body, bb ∈ s.blocksOf body) ∨ bb ∈ s.strays

variable {s s' : Store}

theorem blocksOf_eq {body : Nat} {b : Body} (hb : s.bodies.get? body = some b) :
    s.blocksOf body = b.blocks := by
  rw [blocksOf, hb]
  rfl

theorem ownerOf_eq {body : Nat} {b : Body} (hb : s.bodies.get? body = some b) :
    s.ownerOf body = b.owner? := by
  rw [ownerOf, hb]
  rfl

theorem exists_body_of_mem_blocksOf {body : Nat} {bb : Block} (h : bb ∈ s.blocksOf body) :
    ∃ b, s.bodies.get? body = some b ∧ bb ∈ b.blocks := by
  cases hb : s.bodies.get? body with
  | none => simp [blocksOf, hb] at h
  | some b =>
    rw [blocksOf_eq hb] at h
    exact ⟨b, rfl, h⟩

/-! ## The invariant -/

/-- No two nodes have the same number, and the next number is larger than all of them. -/
structure Numbered (s : Store) : Prop where
  nodup : s.uids.Nodup
  lt : ∀ uid ∈ s.uids, uid < s.nextUid

/-- A block is listed by its home or by no body. -/
structure Housed (s : Store) : Prop where
  listed : ∀ body, ∀ bb ∈ s.blocksOf body, s.homes.get? bb.uid = some body
  stray : ∀ bb ∈ s.strays, ∃ body, s.homes.get? bb.uid = some body ∧
    ∀ bb' ∈ s.blocksOf body, bb'.uid ≠ bb.uid
  home : ∀ uid body, s.homes.get? uid = some body → body ∈ s.bodies.keys ∧
    ∃ bb, bb.uid = uid ∧ (bb ∈ s.blocksOf body ∨ bb ∈ s.strays)
  strays_nodup : (s.strays.map Block.uid).Nodup

/-- A statement is listed by the block that it points back to, once, and by no other block. -/
structure Placed (s : Store) : Prop where
  listed : ∀ bb, s.Holds bb → ∀ st ∈ bb.statements,
    s.statements.get? st.uid = some ⟨st, some bb.uid⟩
  nodup : ∀ bb, s.Holds bb → (bb.statements.map Statement.uid).Nodup
  uid_eq : ∀ uid e, s.statements.get? uid = some e → e.statement.uid = uid
  opcode_ne : ∀ uid e, s.statements.get? uid = some e → e.statement.opcode ≠ ""
  block : ∀ uid e block, s.statements.get? uid = some e → e.block? = some block →
    ∃ bb, s.Holds bb ∧ bb.uid = block ∧ e.statement ∈ bb.statements

/-- A function and its body point to each other. -/
structure Owned (s : Store) : Prop where
  name_ne : ∀ uid f, s.functions.get? uid = some f → f.name ≠ ""
  body : ∀ uid f, s.functions.get? uid = some f → s.ownerOf f.body = some ⟨uid, f.name⟩
  owner : ∀ body o, s.ownerOf body = some o →
    ∃ f, s.functions.get? o.uid = some f ∧ f.body = body ∧ f.name = o.name

/-- The functions of a bundle exist and have different names. -/
structure Listed (s : Store) : Prop where
  exist : ∀ uid b, s.bundles.get? uid = some b → ∀ f ∈ b.functions, f ∈ s.functions.keys
  names : ∀ uid b, s.bundles.get? uid = some b → (s.functionNames b.functions).Nodup

/-- What is true of a store however it was built. -/
structure WellFormed (s : Store) : Prop where
  numbered : s.Numbered
  uid_eq : ∀ uid b, s.bodies.get? uid = some b → b.uid = uid
  body : ∀ uid b, s.bodies.get? uid = some b → b.WellFormed
  housed : s.Housed
  placed : s.Placed
  owned : s.Owned
  listed : s.Listed

theorem wellFormed_empty (nextUid : Nat) : WellFormed { nextUid } where
  numbered := ⟨List.nodup_nil, by simp [uids]⟩
  uid_eq := by simp
  body := by simp
  housed := ⟨by simp [blocksOf], by simp, by simp, List.nodup_nil⟩
  placed := ⟨by simp [Holds, blocksOf], by simp [Holds, blocksOf], by simp, by simp, by simp⟩
  owned := ⟨by simp, by simp, by simp [ownerOf]⟩
  listed := ⟨by simp, by simp⟩

end Flowcheck.Ir.Store
