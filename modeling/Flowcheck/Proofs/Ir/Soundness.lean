import Flowcheck.Proofs.Ir.Consistency
import Flowcheck.Proofs.Ir.Invariant

/-!
# Sound stores

What a caller may rely on, whatever was done to a store before: `Sound` says it in terms of the
look-ups that the caller has, and `sound_run` says that every sequence of operations ends in a sound
store. It follows from the invariant of `WellFormed`, which speaks about the parts of a store
instead.
-/

namespace Flowcheck.Ir

/-! ## Bodies -/

namespace Body

/-- A question about a block has an answer if the block is an own one, and is refused otherwise. -/
def Answered {α : Type} (b : Body) (bb : Block) (answer : Except Error α) : Prop :=
  if bb.uid ∈ b.uids then ∃ a, answer = .ok a
  else answer = .error (.foreignBlock .plain bb.name b.scope)

/-- The maps and pointers of a body hold together, and it can be asked anything. -/
structure Sound (b : Body) : Prop where
  uids_nodup : b.uids.Nodup
  succ_keys : b.succ.keys = b.uids
  pred_keys : b.pred.keys = b.uids
  names_nodup : (b.blocks.map Block.name).Nodup
  /-- The index pairs the names of the blocks with their numbers. -/
  index : ∀ name uid, b.byName.get? name = some uid ↔
    ∃ bb ∈ b.blocks, bb.name = name ∧ bb.uid = uid
  named : ∀ name bb, b.named? name = some bb ↔ bb ∈ b.blocks ∧ bb.name = name
  numbered : ∀ uid bb, b.block? uid = some bb ↔ bb ∈ b.blocks ∧ bb.uid = uid
  dual : ∀ src dst, dst ∈ recorded b.succ src ↔ src ∈ recorded b.pred dst
  own : ∀ src dst, dst ∈ recorded b.succ src → src ∈ b.uids ∧ dst ∈ b.uids
  entry : ∀ uid, b.entryUid? = some uid → ∃ bb ∈ b.blocks, b.entry? = some bb ∧ bb.uid = uid
  exit : ∀ uid, b.exitUid? = some uid → ∃ bb ∈ b.blocks, b.exit? = some bb ∧ bb.uid = uid
  checkAdjacency : b.checkAdjacency = .ok ()
  checkClosed : b.checkClosed = .ok ()
  blockByName : ∀ bb ∈ b.blocks, b.blockByName bb.name = .ok bb
  successors : ∀ bb, b.Answered bb (b.successors bb)
  predecessors : ∀ bb, b.Answered bb (b.predecessors bb)
  nextBlocks : ∀ bb, b.Answered bb (b.nextBlocks bb)
  prevBlocks : ∀ bb, b.Answered bb (b.prevBlocks bb)
  reachableFrom : ∀ bb, b.Answered bb (b.reachableFrom (some bb))
  reachable : ∃ found, b.reachableFrom none = .ok found
  terminal : ∀ bb ∈ b.blocks, ∃ uids, b.succ.get? bb.uid = some uids ∧
    (b.isTerminal bb ↔ uids = [])
  /-- The edges are the ordered successors of the blocks, none of which is refused. -/
  edges : ∀ bb ∈ b.blocks, b.nextBlocks bb = .ok (b.targets bb.uid)

variable {b : Body}

theorem checkOwn_foreign {bb : Block} (foreign : bb.uid ∉ b.uids) (role : BlockRole) :
    b.checkOwn role bb = .error (.foreignBlock role bb.name b.scope) := by
  rw [checkOwn, if_neg (isSome_block?_iff.not.2 foreign)]

theorem successorUids_foreign {bb : Block} (foreign : bb.uid ∉ b.uids) :
    b.successorUids bb = .error (.foreignBlock .plain bb.name b.scope) := by
  rw [successorUids, checkOwn_foreign foreign]
  rfl

theorem predecessorUids_foreign {bb : Block} (foreign : bb.uid ∉ b.uids) :
    b.predecessorUids bb = .error (.foreignBlock .plain bb.name b.scope) := by
  rw [predecessorUids, checkOwn_foreign foreign]
  rfl

theorem reachableFrom_foreign {bb : Block} (foreign : bb.uid ∉ b.uids) :
    b.reachableFrom (some bb) = .error (.foreignBlock .plain bb.name b.scope) := by
  simp only [Body.reachableFrom, Option.some_or, checkOwn_foreign foreign]
  rfl

theorem answered_of {α : Type} {bb : Block} {answer : Except Error α}
    (own : bb.uid ∈ b.uids → ∃ a, answer = .ok a)
    (foreign : bb.uid ∉ b.uids → answer = .error (.foreignBlock .plain bb.name b.scope)) :
    b.Answered bb answer := by
  rw [Answered]
  split
  · rename_i h
    exact own h
  · rename_i h
    exact foreign h

theorem WellFormed.sound (h : b.WellFormed) : b.Sound where
  uids_nodup := h.uids_nodup
  succ_keys := h.succ_keys
  pred_keys := h.pred_keys
  names_nodup := h.names_nodup
  index _ _ := h.byName_eq_some_iff
  named _ _ := h.named?_eq_some_iff
  numbered _ _ := block?_eq_some_iff h.uids_nodup
  dual := h.dual
  own _ _ := h.own_of_mem_succ
  entry uid he := by
    obtain ⟨bb, hbb, hu⟩ := mem_uids_iff.1 (h.entry_own uid he)
    refine ⟨bb, hbb, ?_, hu⟩
    unfold entry?
    rw [he]
    exact (block?_eq_some_iff h.uids_nodup).2 ⟨hbb, hu⟩
  exit uid he := by
    obtain ⟨bb, hbb, hu⟩ := mem_uids_iff.1 (h.exit_own uid he)
    refine ⟨bb, hbb, ?_, hu⟩
    rw [exit?, he]
    exact (block?_eq_some_iff h.uids_nodup).2 ⟨hbb, hu⟩
  checkAdjacency := h.checkAdjacency_ok
  checkClosed := h.checkClosed_ok
  blockByName _ := h.indexed.blockByName_of_mem
  successors bb := by
    refine answered_of (fun own ↦ ⟨_, h.successors_ok own⟩) fun foreign ↦ ?_
    rw [Body.successors, successorUids_foreign foreign]
    rfl
  predecessors bb := by
    refine answered_of (fun own ↦ ⟨_, h.predecessors_ok own⟩) fun foreign ↦ ?_
    rw [Body.predecessors, predecessorUids_foreign foreign]
    rfl
  nextBlocks bb := by
    refine answered_of (fun own ↦ ⟨_, h.nextBlocks_ok own⟩) fun foreign ↦ ?_
    rw [Body.nextBlocks, successorUids_foreign foreign]
    rfl
  prevBlocks bb := by
    refine answered_of (fun own ↦ ⟨_, h.prevBlocks_ok own⟩) fun foreign ↦ ?_
    rw [Body.prevBlocks, predecessorUids_foreign foreign]
    rfl
  reachableFrom bb := by
    refine answered_of (fun own ↦ h.reachableFrom_ok fun start hs ↦ ?_) reachableFrom_foreign
    rwa [← Option.some.inj hs]
  reachable := h.reachableFrom_ok (by simp)
  terminal bb hbb := by
    have key : bb.uid ∈ b.succ.keys := by
      rw [h.succ_keys]
      exact List.mem_map_of_mem hbb
    obtain ⟨uids, hu⟩ := Assoc.mem_keys_iff.1 key
    refine ⟨uids, hu, ?_⟩
    rw [isTerminal, hu, Option.getD_some, List.isEmpty_iff]
  edges bb hbb := h.nextBlocks_ok (List.mem_map_of_mem hbb)

end Body

/-! ## Stores -/

namespace Store

variable {s : Store}

/-- What every caller may rely on. -/
structure Sound (s : Store) : Prop where
  /-- No two nodes have the same number. -/
  uids_nodup : s.uids.Nodup
  body : ∀ uid b, s.bodies.get? uid = some b → b.uid = uid ∧ b.Sound
  home : ∀ body b, s.bodies.get? body = some b → ∀ uid ∈ b.uids, s.homes.get? uid = some body
  /-- A body belongs to a function exactly if it is the body of that function. -/
  owner : ∀ body function name,
    (∃ b, s.bodies.get? body = some b ∧ b.owner? = some ⟨function, name⟩) ↔
      ∃ f, s.functions.get? function = some f ∧ f.body = body ∧ f.name = name
  statement_uid : ∀ uid e, s.statements.get? uid = some e → e.statement.uid = uid
  /-- A statement points back to a block exactly if that block lists it. -/
  statement : ∀ st block, s.statements.get? st.uid = some ⟨st, some block⟩ ↔
    ∃ bb, s.block? block = some bb ∧ st ∈ bb.statements
  once : ∀ block bb, s.block? block = some bb → (bb.statements.map Statement.uid).Nodup
  /-- Everything in a bundle is there, and the bundle is consistent. -/
  bundle : ∀ uid entry, s.bundles.get? uid = some entry → ∃ b, s.bundle? uid = some b ∧
    b.functions.map Function.uid = entry.functions ∧ b.validate = .ok ()

theorem WellFormed.sound (h : s.WellFormed) : s.Sound where
  uids_nodup := h.numbered.nodup
  body uid b hb := ⟨h.uid_eq uid b hb, (h.body uid b hb).sound⟩
  home body b hb uid hu := by
    obtain ⟨bb, hbb, rfl⟩ := Body.mem_uids_iff.1 hu
    rw [← blocksOf_eq hb] at hbb
    exact h.housed.listed body bb hbb
  owner body function name := by
    constructor
    · rintro ⟨b, hb, ho⟩
      exact h.owned.owner body ⟨function, name⟩ ((ownerOf_eq hb).trans ho)
    · rintro ⟨f, hf, rfl, rfl⟩
      exact Option.bind_eq_some_iff.1 (h.owned.body function f hf)
  statement_uid := h.placed.uid_eq
  statement st block := by
    constructor
    · intro hst
      obtain ⟨bb, held, hu, listed⟩ := h.placed.block st.uid _ block hst rfl
      exact ⟨bb, h.block?_eq_some_iff.2 ⟨held, hu⟩, listed⟩
    · rintro ⟨bb, hbb, listed⟩
      obtain ⟨held, rfl⟩ := h.block?_eq_some_iff.1 hbb
      exact h.placed.listed bb held st listed
  once _ bb hbb := h.placed.nodup bb (h.block?_eq_some_iff.1 hbb).1
  bundle _ _ := h.bundle?_ok

end Store

/-- **Whatever is done to a store leaves it sound.** -/
theorem sound_run (nextUid : Nat) (ops : List Operation) :
    (Store.run { nextUid } ops).Sound :=
  (Store.WellFormed.run (Store.wellFormed_empty nextUid) ops).sound

-- A name that is taken, a block that is not there and a frozen body are refused in between.
example : ((Store.run {} [.newBody, .addBlock 1 "a", .addBlock 1 "a", .addBlock 1 "b",
    .addEdge 1 2 3, .addEdge 1 2 9, .freezeBody 1, .addEdge 1 3 3]).bodies.get? 1).map
      (fun b ↦ (b.uids, b.succ.entries)) = some ([2, 3], [(2, [3]), (3, [])]) := by
  decide

end Flowcheck.Ir
