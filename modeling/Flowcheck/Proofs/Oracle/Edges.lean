import Flowcheck.Oracle.Verifier
import Flowcheck.Proofs.Ir.Neighbours

/-!
# Looking for edges

Looking for an expected edge compares with the edges of a function by name. It fails in one way if
there is no source and in another if the source has no such successor. A list of edges is looked
for from its front, so what is reported is the first one that is not there.
-/

namespace Flowcheck.Oracle

variable {f : Ir.Function} {e : ExpectedEdge}

/-! ## One expected edge -/

/-- With a source the outcome depends on the names of its successors. -/
theorem checkEdge_of_mem (h : f.body.Indexed) {s : Ir.Block} (hs : s ∈ f.body.blocks)
    (src : s.name = e.src) :
    checkEdge f e =
      if e.dest ∈ (f.body.targets s.uid).map Ir.Block.name then .ok ()
      else .error (.failed (.missingEdge f.name e ((f.body.targets s.uid).map Ir.Block.name))) := by
  have found := h.blockByName_of_mem hs
  have next := h.nextBlocks_ok (List.mem_map_of_mem hs)
  rw [checkEdge, ← src, found]
  show Except.mapError Fault.graph (f.body.nextBlocks s) >>= _ = _
  rw [next]
  rfl

theorem checkEdge_of_absent (h : f.body.Indexed) (absent : ∀ s ∈ f.body.blocks, s.name ≠ e.src) :
    checkEdge f e = .error (.graph (.blockNotFound e.src f.body.scope)) := by
  rw [checkEdge, h.blockByName_of_absent absent]
  rfl

/-- Looking for an edge succeeds exactly if it is there. -/
theorem checkEdge_eq_ok_iff (h : f.body.Indexed) :
    checkEdge f e = .ok () ↔ f.body.NamedEdge e.src e.dest := by
  by_cases source : ∃ s ∈ f.body.blocks, s.name = e.src
  · obtain ⟨s, hs, src⟩ := source
    rw [checkEdge_of_mem h hs src, ← src, ← Ir.Body.mem_map_targets_iff h.names_nodup hs]
    split
    · rename_i hd
      exact iff_of_true rfl hd
    · rename_i hd
      exact iff_of_false (by simp) hd
  · have absent : ∀ s ∈ f.body.blocks, s.name ≠ e.src := fun s hs src ↦ source ⟨s, hs, src⟩
    rw [checkEdge_of_absent h absent]
    refine iff_of_false (by simp) ?_
    rintro ⟨s, hs, _, _, src, _, _⟩
    exact absent s hs src

/-! ## A list of expected edges -/

theorem checkEdges_eq_forM (f : Ir.Function) (edges : List ExpectedEdge) :
    checkEdges f edges = edges.forM (checkEdge f) := by
  induction edges with
  | nil => rfl
  | cons e edges ih =>
    rw [checkEdges, ih]
    rfl

/-- **All expected edges are found exactly if each of them is there.** -/
theorem checkEdges_eq_ok_iff (h : f.body.Indexed) {edges : List ExpectedEdge} :
    checkEdges f edges = .ok () ↔ ∀ e ∈ edges, f.body.NamedEdge e.src e.dest := by
  have each (edges : List ExpectedEdge) :
      (∀ e ∈ edges, checkEdge f e = .ok ()) ↔ ∀ e ∈ edges, f.body.NamedEdge e.src e.dest :=
    forall₂_congr fun _ _ ↦ checkEdge_eq_ok_iff h
  rw [checkEdges_eq_forM, ← each]
  refine ⟨fun passed ↦ ?_, forM_eq_ok⟩
  rcases forall_ok_or_exists_first (checkEdge f) edges with all | ⟨good, e, rest, x, rfl, hg, he⟩
  · exact all
  · rw [forM_eq_error hg he rest] at passed
    cases passed

end Flowcheck.Oracle
