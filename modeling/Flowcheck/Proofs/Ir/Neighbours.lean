import Flowcheck.Proofs.Ir.Consistency

/-!
# Edges by name

Oracles and documents call blocks by name, so what they can say about a body is which pairs of names
are the ends of an edge. Together with the order of the blocks that relation determines the
successors of a block, also the order in which they are listed.
-/

namespace Flowcheck.Ir.Body

variable {b : Body}

/-- Whether an edge leads from a block with one name to a block with another. -/
def NamedEdge (b : Body) (src dst : String) : Prop :=
  ∃ s ∈ b.blocks, ∃ d ∈ b.blocks, s.name = src ∧ d.name = dst ∧ d.uid ∈ recorded b.succ s.uid

theorem mem_targets_iff {uid : Nat} {d : Block} :
    d ∈ b.targets uid ↔ d ∈ b.blocks ∧ d.uid ∈ recorded b.succ uid := by
  rw [targets, select, List.mem_filter, decide_eq_true_eq, recorded]

/-- Where names are distinct, an edge between two names is one between the blocks of these names. -/
theorem namedEdge_iff (h : (b.blocks.map Block.name).Nodup) {s d : Block} (hs : s ∈ b.blocks)
    (hd : d ∈ b.blocks) : b.NamedEdge s.name d.name ↔ d.uid ∈ recorded b.succ s.uid := by
  constructor
  · rintro ⟨s', hs', d', hd', sameS, sameD, edge⟩
    obtain rfl := List.inj_on_of_nodup_map h hs' hs sameS
    obtain rfl := List.inj_on_of_nodup_map h hd' hd sameD
    exact edge
  · intro edge
    exact ⟨s, hs, d, hd, rfl, rfl, edge⟩

/-- The names of the successors of a block are the ends of the edges from its name. -/
theorem mem_map_targets_iff (h : (b.blocks.map Block.name).Nodup) {s : Block}
    (hs : s ∈ b.blocks) {dst : String} :
    dst ∈ (b.targets s.uid).map Block.name ↔ b.NamedEdge s.name dst := by
  constructor
  · intro listed
    obtain ⟨d, hd, rfl⟩ := List.mem_map.1 listed
    obtain ⟨own, edge⟩ := mem_targets_iff.1 hd
    exact (namedEdge_iff h hs own).2 edge
  · rintro ⟨s', hs', d, hd, same, rfl, edge⟩
    obtain rfl := List.inj_on_of_nodup_map h hs' hs same
    exact List.mem_map_of_mem (mem_targets_iff.2 ⟨hd, edge⟩)

open scoped Classical in
/-- The successors of a block are listed in the order of the blocks. -/
theorem map_targets_eq_filter (h : (b.blocks.map Block.name).Nodup) {s : Block}
    (hs : s ∈ b.blocks) :
    (b.targets s.uid).map Block.name =
      (b.blocks.map Block.name).filter fun dst ↦ b.NamedEdge s.name dst := by
  rw [targets, select, List.filter_map]
  congr 1
  refine List.filter_congr fun d hd ↦ ?_
  rw [Function.comp_apply, decide_eq_decide]
  exact (namedEdge_iff h hs hd).symm

end Flowcheck.Ir.Body
