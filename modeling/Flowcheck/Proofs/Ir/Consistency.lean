import Flowcheck.Proofs.Ir.Body
import Flowcheck.Proofs.Ir.Search

/-!
# Well-formed bodies answer

In a well-formed body every number that an adjacency map, the entry or the exit holds is the number
of one of its blocks. So the checks accept it, and a question about one of its blocks has an answer;
only a question about a block of another body is refused.
-/

namespace Flowcheck.Ir.Body

variable {b : Body}

/-! ## Looking up blocks -/

theorem block?_eq_some_iff (nodup : b.uids.Nodup) {uid : Nat} {bb : Block} :
    b.block? uid = some bb ↔ bb ∈ b.blocks ∧ bb.uid = uid :=
  find?_key_eq_some_iff nodup

/-- The blocks of a body can be looked up and asked for their successors. That is what is left of
`WellFormed` once the adjacency maps have been written directly. -/
structure Indexed (b : Body) : Prop where
  uids_nodup : b.uids.Nodup
  index : b.byName.entries = b.blocks.map fun bb ↦ (bb.name, bb.uid)
  succ_keys : ∀ uid ∈ b.uids, uid ∈ b.succ.keys

theorem WellFormed.indexed (h : b.WellFormed) : b.Indexed where
  uids_nodup := h.uids_nodup
  index := h.index
  succ_keys uid hu := by rwa [h.succ_keys]

namespace Indexed

theorem names_nodup (h : b.Indexed) : (b.blocks.map Block.name).Nodup :=
  names_nodup_of_index h.index

/-- The index leads from the names of the blocks to their numbers. -/
theorem byName_eq_some_iff (h : b.Indexed) {name : String} {uid : Nat} :
    b.byName.get? name = some uid ↔ ∃ bb ∈ b.blocks, bb.name = name ∧ bb.uid = uid := by
  rw [← Assoc.mem_entries_iff, h.index, List.mem_map]
  simp only [Prod.mk.injEq]

theorem named?_eq_some_iff (h : b.Indexed) {name : String} {bb : Block} :
    b.named? name = some bb ↔ bb ∈ b.blocks ∧ bb.name = name := by
  rw [named?, Option.bind_eq_bind, Option.bind_eq_some_iff]
  constructor
  · rintro ⟨uid, indexed, found⟩
    obtain ⟨bb', hbb', rfl, rfl⟩ := h.byName_eq_some_iff.1 indexed
    obtain ⟨hbb, same⟩ := (block?_eq_some_iff h.uids_nodup).1 found
    obtain rfl := List.inj_on_of_nodup_map h.uids_nodup hbb hbb' same
    exact ⟨hbb, rfl⟩
  · rintro ⟨hbb, rfl⟩
    exact ⟨bb.uid, h.byName_eq_some_iff.2 ⟨bb, hbb, rfl, rfl⟩,
      (block?_eq_some_iff h.uids_nodup).2 ⟨hbb, rfl⟩⟩

theorem blockByName_of_mem (h : b.Indexed) {bb : Block} (hbb : bb ∈ b.blocks) :
    b.blockByName bb.name = .ok bb := by
  have indexed := h.byName_eq_some_iff.2 ⟨bb, hbb, rfl, rfl⟩
  have found := (block?_eq_some_iff h.uids_nodup).2 ⟨hbb, rfl⟩
  simp only [blockByName, indexed, found]

theorem blockByName_of_absent (h : b.Indexed) {name : String}
    (absent : ∀ bb ∈ b.blocks, bb.name ≠ name) :
    b.blockByName name = .error (.blockNotFound name b.scope) := by
  have missing : b.byName.get? name = none := by
    rw [Option.eq_none_iff_forall_ne_some]
    intro uid indexed
    obtain ⟨bb, hbb, hn, _⟩ := h.byName_eq_some_iff.1 indexed
    exact absent bb hbb hn
  simp only [blockByName, missing]

theorem successorUids_ok (h : b.Indexed) {bb : Block} (own : bb.uid ∈ b.uids) :
    b.successorUids bb = .ok (recorded b.succ bb.uid) := by
  rw [successorUids, checkOwn_eq_ok_iff.2 own, recorded]
  cases hs : b.succ.get? bb.uid with
  | none => exact absurd (h.succ_keys bb.uid own) (Assoc.get?_eq_none_iff.1 hs)
  | some uids => rfl

theorem nextBlocks_ok (h : b.Indexed) {bb : Block} (own : bb.uid ∈ b.uids) :
    b.nextBlocks bb = .ok (b.targets bb.uid) := by
  rw [nextBlocks, h.successorUids_ok own]
  rfl

end Indexed

theorem WellFormed.byName_eq_some_iff (h : b.WellFormed) {name : String} {uid : Nat} :
    b.byName.get? name = some uid ↔ ∃ bb ∈ b.blocks, bb.name = name ∧ bb.uid = uid :=
  h.indexed.byName_eq_some_iff

theorem WellFormed.named?_eq_some_iff (h : b.WellFormed) {name : String} {bb : Block} :
    b.named? name = some bb ↔ bb ∈ b.blocks ∧ bb.name = name :=
  h.indexed.named?_eq_some_iff

theorem uid_of_block? {uid : Nat} {bb : Block} (h : b.block? uid = some bb) : bb.uid = uid := by
  simpa using List.find?_some h

theorem mem_of_block? {uid : Nat} {bb : Block} (h : b.block? uid = some bb) : bb ∈ b.blocks :=
  List.mem_of_find?_eq_some h

theorem mem_of_isEntry {bb : Block} (he : b.entry? = some bb) : bb ∈ b.blocks := by
  unfold entry? at he
  cases hu : b.entryUid? with
  | none =>
    rw [hu] at he
    exact List.mem_of_head? he
  | some uid =>
    rw [hu] at he
    exact mem_of_block? he

/-- The block to start from is an own one, given or not. -/
theorem start_own {start? : Option Block} (own : ∀ bb, start? = some bb → bb.uid ∈ b.uids)
    {start : Block} (hstart : start?.or b.entry? = some start) : start.uid ∈ b.uids := by
  rcases Option.or_eq_some_iff.1 hstart with given | ⟨_, entry⟩
  · exact own start given
  · exact List.mem_map_of_mem (mem_of_isEntry entry)

/-- A body with blocks has an entry. -/
theorem WellFormed.blocks_eq_nil (h : b.WellFormed) (missing : b.entry? = none) :
    b.blocks = [] := by
  unfold entry? at missing
  cases hu : b.entryUid? with
  | none =>
    rw [hu] at missing
    exact List.head?_eq_none_iff.1 missing
  | some uid =>
    rw [hu] at missing
    have found := isSome_block?_iff.2 (h.entry_own uid hu)
    exact absurd missing (Option.isSome_iff_ne_none.1 found)

/-- Own numbers are looked up one by one. -/
theorem blocksOf_eq_ok {uids : List Nat} (own : ∀ uid ∈ uids, uid ∈ b.uids) :
    b.blocksOf uids = .ok (uids.filterMap b.block?) := by
  rw [blocksOf]
  induction uids with
  | nil => rfl
  | cons uid uids ih =>
    have found := isSome_block?_iff.2 (own uid List.mem_cons_self)
    obtain ⟨bb, hbb⟩ := Option.isSome_iff_exists.1 found
    rw [List.mapM_cons, ih fun v hv ↦ own v (List.mem_cons_of_mem uid hv), hbb,
      List.filterMap_cons_some hbb]
    rfl

theorem map_uid_filterMap_block? {us : List Nat} (own : ∀ u ∈ us, u ∈ b.uids) :
    (us.filterMap b.block?).map Block.uid = us := by
  have found (u : Nat) (hu : u ∈ us) : (b.block? u).map Block.uid = some u := by
    obtain ⟨bb, hbb⟩ := Option.isSome_iff_exists.1 (isSome_block?_iff.2 (own u hu))
    rw [hbb, Option.map_some, uid_of_block? hbb]
  rw [List.map_filterMap]
  exact (List.filterMap_congr found).trans List.filterMap_some

/-! ## Duality -/

theorem mem_recorded_iff {m : Assoc Nat (List Nat)} {key uid : Nat} :
    uid ∈ recorded m key ↔ ∃ uids, (key, uids) ∈ m.entries ∧ uid ∈ uids := by
  rw [recorded]
  constructor
  · intro h
    cases hm : m.get? key with
    | none => simp [hm] at h
    | some uids =>
      rw [hm] at h
      exact ⟨uids, Assoc.mem_entries_of_get? hm, h⟩
  · rintro ⟨uids, entry, h⟩
    rwa [Assoc.get?_of_mem_entries entry]

theorem firstUnmatched_eq_none_iff {m m' : Assoc Nat (List Nat)} :
    firstUnmatched m m' = none ↔ ∀ key uid, uid ∈ recorded m key → key ∈ recorded m' uid := by
  simp only [firstUnmatched, List.findSome?_eq_none_iff, Option.map_eq_none_iff,
    List.find?_eq_none, decide_eq_true_eq, Decidable.not_not, Prod.forall]
  constructor
  · intro h key uid hu
    obtain ⟨uids, entry, hu⟩ := mem_recorded_iff.1 hu
    exact h key uids entry uid hu
  · intro h key uids entry uid hu
    exact h key uid (mem_recorded_iff.2 ⟨uids, entry, hu⟩)

/-- The check of the adjacency maps accepts exactly the dual ones. -/
theorem checkAdjacency_eq_ok_iff :
    b.checkAdjacency = .ok () ↔
      ∀ src dst, dst ∈ recorded b.succ src ↔ src ∈ recorded b.pred dst := by
  have split : b.checkAdjacency = .ok () ↔
      firstUnmatched b.succ b.pred = none ∧ firstUnmatched b.pred b.succ = none := by
    rw [checkAdjacency]
    rcases firstUnmatched b.succ b.pred with _ | ⟨src, dst⟩
    · rcases firstUnmatched b.pred b.succ with _ | ⟨dst, src⟩ <;> simp
    · simp
  rw [split, firstUnmatched_eq_none_iff, firstUnmatched_eq_none_iff]
  constructor
  · rintro ⟨forward, backward⟩ src dst
    exact ⟨forward src dst, backward dst src⟩
  · intro dual
    exact ⟨fun src dst ↦ (dual src dst).1, fun dst src ↦ (dual src dst).2⟩

namespace WellFormed

variable (h : b.WellFormed)

include h

/-! ## Checks -/

theorem closed {u v : Nat} (edge : v ∈ recorded b.succ u) : v ∈ b.uids :=
  (h.own_of_mem_succ edge).2

/-- Paths from own blocks stay among the own blocks. -/
theorem own_of_reaches {start u : Nat} (own : start ∈ b.uids)
    (path : Reaches (recorded b.succ) start u) : u ∈ b.uids :=
  path.of_closed (S := (· ∈ b.uids)) (fun _ _ _ edge ↦ h.closed edge) own

/-- A search along the edges from an own block finds what can be reached. -/
theorem search_own {start : Nat} (own : start ∈ b.uids) :
    ∃ found, search b.uids (recorded b.succ) [start] [] = .ok found ∧ found.Nodup ∧
      ∀ u, u ∈ found ↔ Reaches (recorded b.succ) start u :=
  search_of_own fun _ ↦ h.own_of_reaches own

theorem checkAdjacency_ok : b.checkAdjacency = .ok () := checkAdjacency_eq_ok_iff.2 h.dual

theorem checkClosed_ok : b.checkClosed = .ok () := by
  rw [checkClosed]
  cases he : b.entry? with
  | none => rfl
  | some entry =>
    have own : entry.uid ∈ b.uids := List.mem_map_of_mem (mem_of_isEntry he)
    obtain ⟨found, hf, -, -⟩ := h.search_own own
    rw [uids] at hf
    simp only [hf]

theorem check_ok : b.check = .ok () := by
  rw [check, h.checkAdjacency_ok]
  exact h.checkClosed_ok

/-! ## Questions -/

theorem successorUids_ok {bb : Block} (own : bb.uid ∈ b.uids) :
    b.successorUids bb = .ok (recorded b.succ bb.uid) :=
  h.indexed.successorUids_ok own

theorem predecessorUids_ok {bb : Block} (own : bb.uid ∈ b.uids) :
    b.predecessorUids bb = .ok (recorded b.pred bb.uid) := by
  have key : bb.uid ∈ b.pred.keys := by rwa [h.pred_keys]
  rw [predecessorUids, checkOwn_eq_ok_iff.2 own, recorded]
  cases hs : b.pred.get? bb.uid with
  | none => exact absurd key (Assoc.get?_eq_none_iff.1 hs)
  | some uids => rfl

theorem successors_ok {bb : Block} (own : bb.uid ∈ b.uids) :
    b.successors bb = .ok ((recorded b.succ bb.uid).filterMap b.block?) := by
  rw [successors, h.successorUids_ok own]
  exact blocksOf_eq_ok fun uid hu ↦ (h.own_of_mem_succ hu).2

theorem predecessors_ok {bb : Block} (own : bb.uid ∈ b.uids) :
    b.predecessors bb = .ok ((recorded b.pred bb.uid).filterMap b.block?) := by
  rw [predecessors, h.predecessorUids_ok own]
  exact blocksOf_eq_ok fun uid hu ↦ (h.own_of_mem_succ ((h.dual uid bb.uid).2 hu)).1

theorem nextBlocks_ok {bb : Block} (own : bb.uid ∈ b.uids) :
    b.nextBlocks bb = .ok (b.targets bb.uid) :=
  h.indexed.nextBlocks_ok own

theorem prevBlocks_ok {bb : Block} (own : bb.uid ∈ b.uids) :
    b.prevBlocks bb = .ok (b.sources bb.uid) := by
  rw [prevBlocks, h.predecessorUids_ok own]
  rfl

/-- What is found from an own block are the blocks that the search meets. -/
theorem reachableFrom_of_search {start? : Option Block} {start : Block} {found : List Nat}
    (hstart : start?.or b.entry? = some start) (own : start.uid ∈ b.uids)
    (hf : search b.uids (recorded b.succ) [start.uid] [] = .ok found) :
    b.reachableFrom start? = .ok (found.reverse.filterMap b.block?) := by
  have inside : ∀ u ∈ found.reverse, u ∈ b.uids := by
    obtain ⟨found', hf', -, mem_iff⟩ := h.search_own own
    obtain rfl := Except.ok.inj (hf'.symm.trans hf)
    exact fun u hu ↦ h.own_of_reaches own ((mem_iff u).1 (List.mem_reverse.1 hu))
  rw [← h.succ_keys] at hf
  rw [reachableFrom]
  simp only [hstart, hf, checkOwn_eq_ok_iff.2 own]
  exact blocksOf_eq_ok inside

/-- What is found from an own block are the blocks of all numbers that can be reached. -/
theorem reachableFrom_of_own {start? : Option Block} {start : Block}
    (hstart : start?.or b.entry? = some start) (own : start.uid ∈ b.uids) :
    ∃ found : List Nat, b.reachableFrom start? = .ok (found.filterMap b.block?) ∧ found.Nodup ∧
      ∀ u, u ∈ found ↔ Reaches (recorded b.succ) start.uid u := by
  obtain ⟨found, hf, nodup, mem_iff⟩ := h.search_own own
  refine ⟨found.reverse, h.reachableFrom_of_search hstart own hf, List.nodup_reverse.2 nodup,
    fun u ↦ ?_⟩
  rw [List.mem_reverse, mem_iff]

theorem reachableFrom_ok {start? : Option Block}
    (own : ∀ bb, start? = some bb → bb.uid ∈ b.uids) :
    ∃ found, b.reachableFrom start? = .ok found := by
  cases hs : start?.or b.entry? with
  | none =>
    rw [reachableFrom, hs]
    exact ⟨[], rfl⟩
  | some start =>
    obtain ⟨found, hf, -, -⟩ := h.reachableFrom_of_own hs (start_own own hs)
    exact ⟨_, hf⟩

end WellFormed

end Flowcheck.Ir.Body
