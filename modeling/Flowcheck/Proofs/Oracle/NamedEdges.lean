import Flowcheck.Oracle.Writer
import Flowcheck.Proofs.Oracle.Edges

/-!
# The named edges of a function

The list that an oracle is written from holds the names of the two ends of every edge, each pair
once, in ascending order. Nothing else determines it: two functions with the same relation have the
same list, however they were put together.
-/

namespace Flowcheck.Oracle

/-! ## The order of pairs -/

/-- The strict order of pairs of names. -/
def PairLt (p q : String × String) : Prop := p.1 < q.1 ∨ p.1 = q.1 ∧ p.2 < q.2

theorem pairLe_iff {p q : String × String} : pairLe p q = true ↔ PairLt p q ∨ p = q := by
  rw [pairLe, decide_eq_true_eq, PairLt]
  constructor
  · rintro (first | ⟨same, second⟩)
    · exact .inl (.inl first)
    · by_cases strict : p.2 < q.2
      · exact .inl (.inr ⟨same, strict⟩)
      · exact .inr (Prod.ext same (String.le_antisymm second (String.not_lt.1 strict)))
  · rintro ((first | ⟨same, second⟩) | rfl)
    · exact .inl first
    · exact .inr ⟨same, String.not_lt.1 (String.lt_asymm second)⟩
    · exact .inr ⟨rfl, String.not_lt.1 (String.lt_irrefl _)⟩

theorem PairLt.trans {p q r : String × String} (hpq : PairLt p q) (hqr : PairLt q r) :
    PairLt p r := by
  rcases hpq with first | ⟨same, second⟩ <;> rcases hqr with first' | ⟨same', second'⟩
  · exact .inl (String.lt_trans first first')
  · exact .inl (same' ▸ first)
  · exact .inl (same ▸ first')
  · exact .inr ⟨same.trans same', String.lt_trans second second'⟩

theorem PairLt.irrefl (p : String × String) : ¬ PairLt p p := by
  rintro (first | ⟨-, second⟩)
  · exact String.lt_irrefl _ first
  · exact String.lt_irrefl _ second

theorem pairLe_trans (p q r : String × String) (hpq : pairLe p q = true)
    (hqr : pairLe q r = true) : pairLe p r = true := by
  rw [pairLe_iff] at *
  rcases hpq with hpq | rfl
  · rcases hqr with hqr | rfl
    · exact .inl (hpq.trans hqr)
    · exact .inl hpq
  · exact hqr

theorem pairLe_total (p q : String × String) : (pairLe p q || pairLe q p) = true := by
  rw [Bool.or_eq_true, pairLe, pairLe, decide_eq_true_eq, decide_eq_true_eq]
  by_cases first : p.1 < q.1
  · exact .inl (.inl first)
  · by_cases first' : q.1 < p.1
    · exact .inr (.inl first')
    · have same : p.1 = q.1 :=
        String.le_antisymm (String.not_lt.1 first') (String.not_lt.1 first)
      rcases String.le_total p.2 q.2 with second | second
      · exact .inl (.inr ⟨same, second⟩)
      · exact .inr (.inr ⟨same.symm, second⟩)

/-! ## The list -/

variable {f g : Ir.Function}

/-- The names of the ends of the edges, in the order of the edges. -/
def edgeNames (f : Ir.Function) : List (String × String) :=
  f.body.edges.map fun (src, dst) ↦ (src.name, dst.name)

theorem mem_edgeNames_iff {src dst : String} :
    (src, dst) ∈ edgeNames f ↔ f.body.NamedEdge src dst := by
  simp only [edgeNames, Ir.Body.edges, List.mem_map, List.mem_flatMap, Prod.exists, Prod.mk.injEq,
    Ir.Body.NamedEdge]
  constructor
  · rintro ⟨s, d, ⟨s', hs', d', hd', rfl, rfl⟩, rfl, rfl⟩
    obtain ⟨own, edge⟩ := Ir.Body.mem_targets_iff.1 hd'
    exact ⟨s', hs', d', own, rfl, rfl, edge⟩
  · rintro ⟨s, hs, d, hd, rfl, rfl, edge⟩
    exact ⟨s, d, ⟨s, hs, d, Ir.Body.mem_targets_iff.2 ⟨hd, edge⟩, rfl, rfl⟩, rfl, rfl⟩

/-- Different edges have different names. -/
theorem nodup_edgeNames (h : (f.body.blocks.map Ir.Block.name).Nodup) : (edgeNames f).Nodup := by
  have byBlocks : edgeNames f = f.body.blocks.flatMap fun s ↦
      (f.body.targets s.uid).map fun d ↦ (s.name, d.name) := by
    rw [edgeNames, Ir.Body.edges, List.map_flatMap]
    simp only [List.map_map]
    rfl
  rw [byBlocks, List.nodup_flatMap]
  constructor
  · intro s _
    have names : ((f.body.targets s.uid).map Ir.Block.name).Nodup :=
      h.sublist (List.filter_sublist.map _)
    have pairs := names.map (f := fun name ↦ (s.name, name)) fun _ _ same ↦ (Prod.mk.inj same).2
    rwa [List.map_map] at pairs
  · refine (List.pairwise_map.1 h).imp fun {s s'} ne pair hp hp' ↦ ?_
    obtain ⟨d, -, rfl⟩ := List.mem_map.1 hp
    obtain ⟨d', -, same⟩ := List.mem_map.1 hp'
    exact ne (Prod.mk.inj same).1.symm

theorem mem_namedEdges_iff {src dst : String} :
    (src, dst) ∈ namedEdges f ↔ f.body.NamedEdge src dst := by
  rw [namedEdges, List.mem_mergeSort]
  exact mem_edgeNames_iff

theorem nodup_namedEdges (h : (f.body.blocks.map Ir.Block.name).Nodup) : (namedEdges f).Nodup :=
  (List.mergeSort_perm _ _).nodup_iff.2 (nodup_edgeNames h)

/-- The pairs ascend, and so each occurs once. -/
theorem pairwise_namedEdges (h : (f.body.blocks.map Ir.Block.name).Nodup) :
    (namedEdges f).Pairwise PairLt := by
  have sorted : (namedEdges f).Pairwise fun p q ↦ pairLe p q = true :=
    List.pairwise_mergeSort pairLe_trans pairLe_total _
  refine (sorted.and (nodup_namedEdges h)).imp fun {p q} both ↦ ?_
  exact (pairLe_iff.1 both.1).resolve_right both.2

/-- **The relation determines the list.** -/
theorem namedEdges_eq_iff (hf : (f.body.blocks.map Ir.Block.name).Nodup)
    (hg : (g.body.blocks.map Ir.Block.name).Nodup) :
    namedEdges f = namedEdges g ↔
      ∀ src dst, f.body.NamedEdge src dst ↔ g.body.NamedEdge src dst := by
  constructor
  · intro same src dst
    rw [← mem_namedEdges_iff, same, mem_namedEdges_iff]
  · intro same
    have perm : (namedEdges f).Perm (namedEdges g) := by
      rw [List.perm_ext_iff_of_nodup (nodup_namedEdges hf) (nodup_namedEdges hg)]
      rintro ⟨src, dst⟩
      rw [mem_namedEdges_iff, mem_namedEdges_iff, same]
    refine perm.eq_of_pairwise (fun p q _ _ hpq hqp ↦ ?_) (pairwise_namedEdges hf)
      (pairwise_namedEdges hg)
    exact absurd (hpq.trans hqp) (PairLt.irrefl p)

end Flowcheck.Oracle
