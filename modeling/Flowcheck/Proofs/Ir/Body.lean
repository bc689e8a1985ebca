import Flowcheck.Ir.Consistency
import Flowcheck.Proofs.Checks
import Mathlib.Data.List.Nodup

/-!
# Well-formed bodies

The two adjacency maps of a body are separate data, and so is the index of its blocks by name;
`WellFormed` is what keeps them together. A body starts out well formed, and each change that it
accepts keeps it so.
-/

namespace Flowcheck.Ir.Body

/-! ## Checks -/

/-- The numbers of the blocks in declaration order. -/
def uids (b : Body) : List Nat := b.blocks.map Block.uid

theorem mem_uids_iff {b : Body} {uid : Nat} : uid ∈ b.uids ↔ ∃ bb ∈ b.blocks, bb.uid = uid :=
  List.mem_map

theorem isSome_block?_iff {b : Body} {uid : Nat} : (b.block? uid).isSome ↔ uid ∈ b.uids := by
  simp [uids, block?]

theorem checkMutable_eq_ok_iff {b : Body} : b.checkMutable = .ok () ↔ b.frozen = false := by
  cases h : b.frozen <;> simp [checkMutable, h]

theorem checkOwn_eq_ok_iff {b : Body} {role : BlockRole} {bb : Block} :
    b.checkOwn role bb = .ok () ↔ bb.uid ∈ b.uids := by
  rw [← isSome_block?_iff, checkOwn]
  split <;> simp_all

theorem checkNewName_eq_ok_iff {b : Body} {name : String} :
    b.checkNewName name = .ok () ↔ name ≠ "" ∧ b.hasBlock name = false := by
  rw [checkNewName]
  split
  · simp_all
  · split <;> simp_all

theorem hasBlock_eq_false_iff {b : Body} {name : String} :
    b.hasBlock name = false ↔ name ∉ b.byName.keys := by
  rw [← Bool.not_eq_true, hasBlock, Assoc.contains_iff]

/-! ## Adjacency maps -/

theorem mem_adjoin {uids : List Nat} {uid v : Nat} : v ∈ adjoin uids uid ↔ v ∈ uids ∨ v = uid := by
  rw [adjoin]
  split
  · rename_i h
    constructor
    · exact .inl
    · rintro (hv | rfl)
      · exact hv
      · exact h
  · rw [List.mem_append, List.mem_singleton]

theorem nodup_adjoin {uids : List Nat} (uid : Nat) (h : uids.Nodup) : (adjoin uids uid).Nodup := by
  rw [adjoin]
  split
  · exact h
  · rename_i new
    rw [← List.concat_eq_append]
    exact List.Nodup.concat new h

variable {m : Assoc Nat (List Nat)}

theorem mem_keys_of_mem_recorded {key uid : Nat} (h : uid ∈ recorded m key) : key ∈ m.keys := by
  apply Decidable.byContradiction
  intro absent
  rw [recorded, Assoc.get?_eq_none_iff.2 absent] at h
  simp at h

theorem recorded_empty (key : Nat) : recorded ∅ key = [] := rfl

/-- A new key without numbers records nothing. -/
theorem recorded_insert_nil {uid : Nat} (new : uid ∉ m.keys) (key : Nat) :
    recorded (m.insert uid []) key = recorded m key := by
  rw [recorded, recorded, Assoc.get?_insert]
  split
  · rename_i h
    subst h
    rw [Assoc.get?_eq_none_iff.2 new]
    rfl
  · rfl

theorem recorded_modify_adjoin {key : Nat} (own : key ∈ m.keys) (uid key' : Nat) :
    recorded (m.modify key fun uids ↦ adjoin uids uid) key' =
      if key = key' then adjoin (recorded m key') uid else recorded m key' := by
  rw [recorded, recorded, Assoc.get?_modify]
  split
  · rename_i h
    subst h
    cases hm : m.get? key with
    | none => exact absurd own (Assoc.get?_eq_none_iff.1 hm)
    | some uids => rfl
  · cases m.get? key' <;> rfl

theorem mem_recorded_modify_adjoin {key : Nat} (own : key ∈ m.keys) (uid key' v : Nat) :
    v ∈ recorded (m.modify key fun uids ↦ adjoin uids uid) key' ↔
      v ∈ recorded m key' ∨ (key = key' ∧ v = uid) := by
  rw [recorded_modify_adjoin own]
  by_cases h : key = key'
  · rw [if_pos h, mem_adjoin]
    simp [h]
  · rw [if_neg h]
    simp [h]

theorem nodup_recorded_modify_adjoin {key : Nat} (own : key ∈ m.keys) (uid : Nat)
    (h : ∀ key', (recorded m key').Nodup) (key' : Nat) :
    (recorded (m.modify key fun uids ↦ adjoin uids uid) key').Nodup := by
  rw [recorded_modify_adjoin own]
  split
  · exact nodup_adjoin uid (h key')
  · exact h key'

/-! ## The invariant -/

/-- The maps and pointers of a body agree with its blocks and with each other. -/
structure WellFormed (b : Body) : Prop where
  uids_nodup : b.uids.Nodup
  /-- The index has the name and the number of each block. -/
  index : b.byName.entries = b.blocks.map fun bb ↦ (bb.name, bb.uid)
  name_ne : ∀ bb ∈ b.blocks, bb.name ≠ ""
  succ_keys : b.succ.keys = b.uids
  pred_keys : b.pred.keys = b.uids
  /-- Every edge is written in both directions. -/
  dual : ∀ src dst, dst ∈ recorded b.succ src ↔ src ∈ recorded b.pred dst
  succ_nodup : ∀ uid, (recorded b.succ uid).Nodup
  pred_nodup : ∀ uid, (recorded b.pred uid).Nodup
  entry_own : ∀ uid, b.entryUid? = some uid → uid ∈ b.uids
  exit_own : ∀ uid, b.exitUid? = some uid → uid ∈ b.uids

/-- A body without blocks, with or without an owner. -/
theorem wellFormed_empty (uid : Nat) (owner? : Option Owner) :
    WellFormed { uid, owner? } where
  uids_nodup := List.nodup_nil
  index := rfl
  name_ne := by simp
  succ_keys := rfl
  pred_keys := rfl
  dual := by simp [recorded_empty]
  succ_nodup := by simp [recorded_empty]
  pred_nodup := by simp [recorded_empty]
  entry_own := by simp
  exit_own := by simp

theorem WellFormed.owner {b : Body} (h : b.WellFormed) (owner? : Option Owner) :
    WellFormed { b with owner? } :=
  { h with }

/-- An index of all blocks by name leaves no two with the same name. -/
theorem names_nodup_of_index {b : Body}
    (index : b.byName.entries = b.blocks.map fun bb ↦ (bb.name, bb.uid)) :
    (b.blocks.map Block.name).Nodup := by
  have names : b.byName.keys = b.blocks.map Block.name := by
    rw [Assoc.keys, index, List.map_map]
    rfl
  exact names ▸ b.byName.nodup_keys

theorem WellFormed.names_nodup {b : Body} (h : b.WellFormed) :
    (b.blocks.map Block.name).Nodup :=
  names_nodup_of_index h.index

/-- An edge joins two of the body's own blocks. -/
theorem WellFormed.own_of_mem_succ {b : Body} (h : b.WellFormed) {src dst : Nat}
    (edge : dst ∈ recorded b.succ src) : src ∈ b.uids ∧ dst ∈ b.uids := by
  constructor
  · rw [← h.succ_keys]
    exact mem_keys_of_mem_recorded edge
  · rw [← h.pred_keys]
    exact mem_keys_of_mem_recorded ((h.dual src dst).1 edge)

/-! ## New blocks -/

theorem uids_pushBlock (b : Body) (uid : Nat) (name : String) :
    (b.pushBlock uid name).uids = b.uids ++ [uid] := by
  simp [uids, pushBlock]

theorem WellFormed.pushBlock {b : Body} (h : b.WellFormed) {uid : Nat} {name : String}
    (new : uid ∉ b.uids) (hn : name ≠ "") (newName : b.hasBlock name = false) :
    (b.pushBlock uid name).WellFormed := by
  have newSucc : uid ∉ b.succ.keys := by rwa [h.succ_keys]
  have newPred : uid ∉ b.pred.keys := by rwa [h.pred_keys]
  have succ : ∀ key, recorded (b.pushBlock uid name).succ key = recorded b.succ key :=
    recorded_insert_nil newSucc
  have pred : ∀ key, recorded (b.pushBlock uid name).pred key = recorded b.pred key :=
    recorded_insert_nil newPred
  constructor
  case uids_nodup =>
    rw [uids_pushBlock, ← List.concat_eq_append]
    exact List.Nodup.concat new h.uids_nodup
  case index =>
    rw [Body.pushBlock, Assoc.entries_insert_new (hasBlock_eq_false_iff.1 newName), h.index,
      List.map_append, List.map_singleton]
  case name_ne =>
    intro bb hbb
    rcases List.mem_append.1 hbb with hbb | hbb
    · exact h.name_ne bb hbb
    · rw [List.mem_singleton.1 hbb]
      exact hn
  case succ_keys =>
    rw [uids_pushBlock, Body.pushBlock, Assoc.keys_insert_new newSucc, h.succ_keys]
  case pred_keys =>
    rw [uids_pushBlock, Body.pushBlock, Assoc.keys_insert_new newPred, h.pred_keys]
  case dual => simpa only [succ, pred] using h.dual
  case succ_nodup => simpa only [succ] using h.succ_nodup
  case pred_nodup => simpa only [pred] using h.pred_nodup
  case entry_own =>
    intro v hv
    rw [uids_pushBlock]
    exact List.mem_append_left _ (h.entry_own v hv)
  case exit_own =>
    intro v hv
    rw [uids_pushBlock]
    exact List.mem_append_left _ (h.exit_own v hv)

/-! ## New statements -/

@[simp] theorem uid_receive (uid : Nat) (st : Statement) (bb : Block) :
    (bb.receive uid st).uid = bb.uid := by
  rw [Block.receive]
  split <;> rfl

@[simp] theorem name_receive (uid : Nat) (st : Statement) (bb : Block) :
    (bb.receive uid st).name = bb.name := by
  rw [Block.receive]
  split <;> rfl

theorem receive_of_ne {uid : Nat} {bb : Block} (h : bb.uid ≠ uid) (st : Statement) :
    bb.receive uid st = bb := by
  rw [Block.receive, if_neg h]

theorem mem_receive_iff {uid : Nat} {st st' : Statement} {bb : Block} :
    st' ∈ (bb.receive uid st).statements ↔ st' ∈ bb.statements ∨ (bb.uid = uid ∧ st' = st) := by
  rw [Block.receive]
  split
  · rename_i h
    simp [h]
  · rename_i h
    simp [h]

theorem map_uid_appendStatement (blocks : List Block) (uid : Nat) (st : Statement) :
    (appendStatement blocks uid st).map Block.uid = blocks.map Block.uid := by
  simp [appendStatement, Function.comp_def]

theorem map_index_appendStatement (blocks : List Block) (uid : Nat) (st : Statement) :
    ((appendStatement blocks uid st).map fun bb ↦ (bb.name, bb.uid)) =
      blocks.map fun bb ↦ (bb.name, bb.uid) := by
  simp [appendStatement, Function.comp_def]

theorem uids_pushStatement (b : Body) (block : Nat) (st : Statement) :
    (b.pushStatement block st).uids = b.uids :=
  map_uid_appendStatement b.blocks block st

theorem WellFormed.pushStatement {b : Body} (h : b.WellFormed) (block : Nat) (st : Statement) :
    (b.pushStatement block st).WellFormed := by
  have uids := uids_pushStatement b block st
  constructor
  case uids_nodup => simpa only [uids] using h.uids_nodup
  case index =>
    rw [Body.pushStatement, map_index_appendStatement]
    exact h.index
  case name_ne =>
    intro bb' hbb'
    obtain ⟨bb, hbb, rfl⟩ := List.mem_map.1 hbb'
    rw [name_receive]
    exact h.name_ne bb hbb
  case succ_keys => exact h.succ_keys.trans uids.symm
  case pred_keys => exact h.pred_keys.trans uids.symm
  case dual => exact h.dual
  case succ_nodup => exact h.succ_nodup
  case pred_nodup => exact h.pred_nodup
  case entry_own =>
    rw [uids]
    exact h.entry_own
  case exit_own =>
    rw [uids]
    exact h.exit_own

/-! ## Edits -/

/-- A change of a body that leaves its blocks alone. -/
inductive Edit where
  | edge (src dst : Nat)
  | entry (uid : Nat)
  | exit (uid : Nat)
  | freeze
  deriving DecidableEq

/-- Before and after an edit that a body accepts. -/
inductive Edits (b : Body) : Edit → Body → Prop where
  | edge {src dst : Nat} (mutable : b.frozen = false) (hs : src ∈ b.uids) (hd : dst ∈ b.uids) :
      Edits b (.edge src dst) (b.link src dst)
  | entry {uid : Nat} (mutable : b.frozen = false) (own : uid ∈ b.uids) :
      Edits b (.entry uid) { b with entryUid? := some uid }
  | exit {uid : Nat} (mutable : b.frozen = false) (own : uid ∈ b.uids) :
      Edits b (.exit uid) { b with exitUid? := some uid }
  | freeze : Edits b .freeze b.freeze

theorem edits_of_addEdge {b b' : Body} {src dst : Block} (h : b.addEdge src dst = .ok b') :
    b.Edits (.edge src.uid dst.uid) b' := by
  obtain ⟨_, mutable, h⟩ := bind_eq_ok_iff.1 h
  obtain ⟨_, hs, h⟩ := bind_eq_ok_iff.1 h
  obtain ⟨_, hd, h⟩ := bind_eq_ok_iff.1 h
  obtain rfl := Except.ok.inj h
  exact .edge (checkMutable_eq_ok_iff.1 mutable) (checkOwn_eq_ok_iff.1 hs) (checkOwn_eq_ok_iff.1 hd)

theorem edits_of_setEntry {b b' : Body} {bb : Block} (h : b.setEntry bb = .ok b') :
    b.Edits (.entry bb.uid) b' := by
  obtain ⟨_, mutable, h⟩ := bind_eq_ok_iff.1 h
  obtain ⟨_, own, h⟩ := bind_eq_ok_iff.1 h
  obtain rfl := Except.ok.inj h
  exact .entry (checkMutable_eq_ok_iff.1 mutable) (checkOwn_eq_ok_iff.1 own)

theorem edits_of_setExit {b b' : Body} {bb : Block} (h : b.setExit bb = .ok b') :
    b.Edits (.exit bb.uid) b' := by
  obtain ⟨_, mutable, h⟩ := bind_eq_ok_iff.1 h
  obtain ⟨_, own, h⟩ := bind_eq_ok_iff.1 h
  obtain rfl := Except.ok.inj h
  exact .exit (checkMutable_eq_ok_iff.1 mutable) (checkOwn_eq_ok_iff.1 own)

namespace Edits

variable {b b' : Body} {e : Edit}

theorem uid_eq (h : b.Edits e b') : b'.uid = b.uid := by
  cases h <;> rfl

theorem owner?_eq (h : b.Edits e b') : b'.owner? = b.owner? := by
  cases h <;> rfl

theorem blocks_eq (h : b.Edits e b') : b'.blocks = b.blocks := by
  cases h <;> rfl

end Edits

theorem WellFormed.link {b : Body} (h : b.WellFormed) {src dst : Nat} (hs : src ∈ b.uids)
    (hd : dst ∈ b.uids) : (b.link src dst).WellFormed := by
  have hs' : src ∈ b.succ.keys := by rwa [h.succ_keys]
  have hd' : dst ∈ b.pred.keys := by rwa [h.pred_keys]
  refine { h with
    succ_keys := ?_, pred_keys := ?_, dual := fun s d ↦ ?_, succ_nodup := ?_, pred_nodup := ?_ }
  · rw [Body.link, Assoc.keys_modify]
    exact h.succ_keys
  · rw [Body.link, Assoc.keys_modify]
    exact h.pred_keys
  · rw [Body.link, mem_recorded_modify_adjoin hs', mem_recorded_modify_adjoin hd', h.dual s d,
      and_comm, eq_comm (a := d), eq_comm (a := s)]
  · exact nodup_recorded_modify_adjoin hs' dst h.succ_nodup
  · exact nodup_recorded_modify_adjoin hd' src h.pred_nodup

/-- **Every edit keeps a body well formed.** -/
theorem WellFormed.edits {b b' : Body} {e : Edit} (h : b.WellFormed) (he : b.Edits e b') :
    b'.WellFormed := by
  cases he with
  | edge _ hs hd => exact h.link hs hd
  | entry _ own =>
    refine { h with entry_own := fun uid hu ↦ ?_ }
    rwa [← Option.some.inj hu]
  | exit _ own =>
    refine { h with exit_own := fun uid hu ↦ ?_ }
    rwa [← Option.some.inj hu]
  | freeze => exact { h with }

end Flowcheck.Ir.Body
