import Flowcheck.Proofs.Ir.History
import Flowcheck.Proofs.Ir.Neighbours
import Mathlib

/-!
# Views of a body

A body answers the same question in several ways. Edges are kept as sets of numbers in the order of
their addition, once for each end; they are shown as blocks in the order of declaration, block by
block or all together, in both directions, counted, or asked about one at a time. `Shows` says what
all of these come to, given the blocks that were added and the pairs that were linked, and nothing
in it depends on the order in which pairs were linked or on how often.

By `shows_run` every body of every run shows what the calls of the run have added to it.
-/

namespace Flowcheck.Ir

namespace Body

variable {b : Body}

/-! ## Sets of blocks -/

theorem mem_select_iff {us : List Nat} {bb : Block} :
    bb ∈ b.select us ↔ bb ∈ b.blocks ∧ bb.uid ∈ us := by
  rw [select, List.mem_filter, decide_eq_true_eq]

theorem blocks_nodup (h : b.uids.Nodup) : b.blocks.Nodup := h.of_map

/-- A set of numbers stands for the same blocks whether they are looked up one by one or picked out
of all blocks. -/
theorem filterMap_block?_perm (h : b.uids.Nodup) {us : List Nat} (nodup : us.Nodup)
    (own : ∀ u ∈ us, u ∈ b.uids) : (us.filterMap b.block?).Perm (b.select us) := by
  have found : (us.filterMap b.block?).Nodup := by
    refine List.Nodup.of_map Block.uid ?_
    rwa [map_uid_filterMap_block? own]
  have picked : (b.select us).Nodup := (blocks_nodup h).filter _
  rw [List.perm_ext_iff_of_nodup found picked]
  intro bb
  rw [mem_select_iff, List.mem_filterMap]
  constructor
  · rintro ⟨u, hu, hbb⟩
    obtain ⟨own, rfl⟩ := (block?_eq_some_iff h).1 hbb
    exact ⟨own, hu⟩
  · rintro ⟨own, hu⟩
    exact ⟨bb.uid, hu, (block?_eq_some_iff h).2 ⟨own, rfl⟩⟩

theorem length_select (h : b.uids.Nodup) {us : List Nat} (nodup : us.Nodup)
    (own : ∀ u ∈ us, u ∈ b.uids) : (b.select us).length = us.length := by
  rw [← (filterMap_block?_perm h nodup own).length_eq, ← List.length_map (f := Block.uid),
    map_uid_filterMap_block? own]

section

variable {Linked : Nat → Nat → Prop} [DecidableRel Linked]
  (linked : ∀ src dst, dst ∈ recorded b.succ src ↔ Linked src dst)

include linked

theorem targets_eq (src : Nat) : b.targets src = b.blocks.filter fun dst ↦ Linked src dst.uid := by
  rw [targets, select]
  exact List.filter_congr fun dst _ ↦ decide_eq_decide.2 (linked src dst.uid)

theorem edges_eq :
    b.edges = (b.blocks.product b.blocks).filter fun p ↦ Linked p.1.uid p.2.uid := by
  rw [edges, List.product, List.filter_flatMap]
  refine List.flatMap_congr fun src _ ↦ ?_
  rw [targets_eq linked, List.filter_map]
  rfl

end

/-! ## Views -/

/-- What a body shows when the blocks with these numbers and names were added to it and these pairs
of numbers were linked. -/
structure Shows (b : Body) (added : List (Nat × String)) (Linked : Nat → Nat → Prop)
    [DecidableRel Linked] : Prop where
  blocks : b.blocks.map (fun bb ↦ (bb.uid, bb.name)) = added
  blocks_nodup : b.blocks.Nodup
  /-- Only own blocks are linked, so no linked pair is left out. -/
  own : ∀ src dst, Linked src dst → src ∈ b.uids ∧ dst ∈ b.uids
  /-- The linked pairs of blocks, by the position of the source and then by that of the target. -/
  edges : b.edges = (b.blocks.product b.blocks).filter fun p ↦ Linked p.1.uid p.2.uid
  edges_nodup : b.edges.Nodup
  numEdges : b.numEdges = b.edges.length
  nextBlocks : ∀ bb, bb.uid ∈ b.uids →
    b.nextBlocks bb = .ok (b.blocks.filter fun dst ↦ Linked bb.uid dst.uid)
  prevBlocks : ∀ bb, bb.uid ∈ b.uids →
    b.prevBlocks bb = .ok (b.blocks.filter fun src ↦ Linked src.uid bb.uid)
  successors : ∀ bb, bb.uid ∈ b.uids → ∃ bbs, b.successors bb = .ok bbs ∧
    bbs.Perm (b.blocks.filter fun dst ↦ Linked bb.uid dst.uid)
  predecessors : ∀ bb, bb.uid ∈ b.uids → ∃ bbs, b.predecessors bb = .ok bbs ∧
    bbs.Perm (b.blocks.filter fun src ↦ Linked src.uid bb.uid)
  isTerminal : ∀ bb, b.isTerminal bb = true ↔ ∀ dst, ¬ Linked bb.uid dst
  hasBlock : ∀ name, b.hasBlock name = true ↔ ∃ bb ∈ b.blocks, bb.name = name
  blockByName : ∀ bb ∈ b.blocks, b.blockByName bb.name = .ok bb
  blockByName_absent : ∀ name, b.hasBlock name = false →
    b.blockByName name = .error (.blockNotFound name b.scope)

namespace WellFormed

variable (h : b.WellFormed)

include h

theorem hasBlock_iff {name : String} :
    b.hasBlock name = true ↔ ∃ bb ∈ b.blocks, bb.name = name := by
  rw [Body.hasBlock, Assoc.contains_iff, Assoc.keys, h.index, List.map_map]
  exact List.mem_map

/-- The entries of the map of successors are the recorded targets of the blocks. -/
theorem succ_values : b.succ.values = b.uids.map (recorded b.succ) := by
  rw [← h.succ_keys, Assoc.keys, List.map_map]
  refine List.map_congr_left fun e he ↦ ?_
  rw [Function.comp_apply, recorded, Assoc.get?_of_mem_entries he, Option.getD_some]

theorem numEdges_eq : b.numEdges = b.edges.length := by
  -- Numbers are counted and blocks are shown. There is a block for each number, and only one.
  have targets (bb : Block) (hbb : bb ∈ b.blocks) :
      (recorded b.succ bb.uid).length = ((b.targets bb.uid).map (bb, ·)).length := by
    rw [List.length_map, Body.targets]
    refine (length_select h.uids_nodup (h.succ_nodup bb.uid) fun u hu ↦ ?_).symm
    exact (h.own_of_mem_succ hu).2
  rw [Body.numEdges, h.succ_values, List.length_flatten, List.map_map, uids, List.map_map,
    Body.edges, List.length_flatMap]
  exact congrArg List.sum (List.map_congr_left targets)

variable {Linked : Nat → Nat → Prop} [DecidableRel Linked]
  (linked : ∀ src dst, dst ∈ recorded b.succ src ↔ Linked src dst)

include linked

theorem sources_eq (dst : Nat) : b.sources dst = b.blocks.filter fun src ↦ Linked src.uid dst := by
  rw [Body.sources, select]
  refine List.filter_congr fun src _ ↦ decide_eq_decide.2 ?_
  exact (h.dual src.uid dst).symm.trans (linked src.uid dst)

/-- **All views of a body agree.** -/
theorem shows : b.Shows (b.blocks.map fun bb ↦ (bb.uid, bb.name)) Linked where
  blocks := rfl
  blocks_nodup := Body.blocks_nodup h.uids_nodup
  own src dst hl := h.own_of_mem_succ ((linked src dst).2 hl)
  edges := edges_eq linked
  edges_nodup := by
    have nodup := Body.blocks_nodup h.uids_nodup
    rw [edges_eq linked]
    exact (nodup.product nodup).filter _
  numEdges := h.numEdges_eq
  nextBlocks bb own := by rw [h.nextBlocks_ok own, targets_eq linked]
  prevBlocks bb own := by rw [h.prevBlocks_ok own, h.sources_eq linked]
  successors bb own := by
    refine ⟨_, h.successors_ok own, ?_⟩
    rw [← targets_eq linked]
    exact filterMap_block?_perm h.uids_nodup (h.succ_nodup _) fun u hu ↦ (h.own_of_mem_succ hu).2
  predecessors bb own := by
    refine ⟨_, h.predecessors_ok own, ?_⟩
    rw [← h.sources_eq linked]
    exact filterMap_block?_perm h.uids_nodup (h.pred_nodup _) fun u hu ↦
      (h.own_of_mem_succ ((h.dual u _).2 hu)).1
  isTerminal bb := by
    simp only [← linked, recorded, Body.isTerminal, List.isEmpty_iff,
      List.eq_nil_iff_forall_not_mem]
  hasBlock _ := h.hasBlock_iff
  blockByName _ := h.indexed.blockByName_of_mem
  blockByName_absent name missing := by
    refine h.indexed.blockByName_of_absent fun bb hbb same ↦ ?_
    rw [h.hasBlock_iff.2 ⟨bb, hbb, same⟩] at missing
    cases missing

end WellFormed

end Body

/-! ## Runs -/

/-- **Every body shows what calls have added to it.** -/
theorem shows_run (nextUid : Nat) (ops : List Operation) {body : Nat} {b : Body}
    (hb : (Store.run { nextUid } ops).bodies.get? body = some b) :
    b.Shows (addedBlocks (Store.calls { nextUid } ops) body)
      fun src dst ↦ Call.edge body src dst ∈ Store.calls { nextUid } ops := by
  have records := records_run nextUid ops
  have wf := ((Store.wellFormed_empty nextUid).run ops).body body b hb
  have blocks := records.blocks body
  have edge := records.edge body
  rw [Store.shape_eq hb] at blocks edge
  exact blocks ▸ wf.shows edge

/-- An edge that is linked twice, a self loop, calls that are refused and builder calls that get
only half way. -/
theorem shows_run_repeated :
    let ops : List Operation :=
      [.newBody, .addBlock 1 "a", .addBlock 1 "b", .addBlock 1 "a", .addEdge 1 3 2, .addEdge 1 2 2,
        .addEdge 1 3 2, .addEdge 1 2 9, .newFunction "f" (some 1), .buildBlock 4 "c" [("", [])],
        .buildEdges 4 [("c", "a"), ("a", "c"), ("c", "x"), ("a", "b")], .freezeBody 1,
        .addEdge 1 2 3]
    let calls : List Call :=
      [.block 1 2 "a", .block 1 3 "b", .edge 1 3 2, .edge 1 2 2, .edge 1 3 2, .block 1 5 "c",
        .edge 1 5 2, .edge 1 2 5]
    Store.calls {} ops = calls ∧ ∃ b, (Store.run {} ops).bodies.get? 1 = some b ∧
      b.Shows [(2, "a"), (3, "b"), (5, "c")] (fun src dst ↦ Call.edge 1 src dst ∈ calls) ∧
      b.edges.map (fun p ↦ (p.1.name, p.2.name)) =
        [("a", "a"), ("a", "c"), ("b", "a"), ("c", "a")] := by
  intro ops calls
  have made : Store.calls {} ops = calls := by decide +kernel
  have added : addedBlocks calls 1 = [(2, "a"), (3, "b"), (5, "c")] := by decide
  have found : ((Store.run {} ops).bodies.get? 1).map
      (fun b ↦ b.edges.map fun p ↦ (p.1.name, p.2.name)) =
        some [("a", "a"), ("a", "c"), ("b", "a"), ("c", "a")] := by decide +kernel
  obtain ⟨b, hb, listed⟩ := Option.map_eq_some_iff.1 found
  have shown := shows_run 1 ops hb
  rw [made, added] at shown
  exact ⟨made, b, hb, shown, listed⟩

end Flowcheck.Ir
