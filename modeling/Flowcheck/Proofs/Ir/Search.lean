import Flowcheck.Ir.Search
import Mathlib.Logic.Relation

/-!
# What the search finds

A search ends in one of two ways. It answers with exactly the numbers that can be reached from its
work list, or it stops at such a number that is no node of the graph. The invariant is that the
neighbours of whatever has been seen have been seen as well or are still waiting; that a number may
wait more than once does no harm to it.
-/

namespace Flowcheck.Ir

variable {nodes : List Nat} {next : Nat → List Nat} {work seen : List Nat} {u v start : Nat}

/-! ## Paths -/

/-- A path of steps, possibly of none, leads from the first number to the second. -/
def Reaches (next : Nat → List Nat) : Nat → Nat → Prop :=
  Relation.ReflTransGen fun u v ↦ v ∈ next u

/-- A path is at its end or goes on from a neighbour. -/
theorem reaches_iff : Reaches next u v ↔ v = u ∨ ∃ w ∈ next u, Reaches next w v :=
  Relation.ReflTransGen.cases_head_iff.trans (or_congr_left eq_comm)

/-- No path leads out of a set that no step leads out of. -/
theorem Reaches.of_closed {S : Nat → Prop} (closed : ∀ u, S u → ∀ v ∈ next u, S v)
    (path : Reaches next u v) (hu : S u) : S v := by
  induction path with
  | refl => exact hu
  | tail _ step ih => exact closed _ ih _ step

/-- All neighbours of seen numbers are seen or waiting. -/
def Covered (next : Nat → List Nat) (work seen : List Nat) : Prop :=
  ∀ u ∈ seen, ∀ v ∈ next u, v ∈ seen ∨ v ∈ work

/-- Whatever can be reached from a seen number has been seen or will be found from a waiting one. -/
theorem Covered.seen_or_reaches (covered : Covered next work seen) (hu : u ∈ seen)
    (path : Reaches next u v) : v ∈ seen ∨ ∃ w ∈ work, Reaches next w v := by
  refine path.of_closed (S := fun v ↦ v ∈ seen ∨ ∃ w ∈ work, Reaches next w v) ?_ (.inl hu)
  rintro x (hx | ⟨w, hw, before⟩) y step
  · rcases covered x hx y step with hy | hy
    · exact .inl hy
    · exact .inr ⟨y, hy, .refl⟩
  · exact .inr ⟨w, hw, before.tail step⟩

/-- A number that has been seen need not wait any longer. -/
theorem Covered.drop (covered : Covered next (u :: work) seen) (old : u ∈ seen) :
    Covered next work seen := by
  intro x hx y step
  rcases covered x hx y step with hy | hy
  · exact .inl hy
  · rcases List.mem_cons.1 hy with rfl | hy
    · exact .inl old
    · exact .inr hy

/-- A number is seen once its neighbours are waiting. -/
theorem Covered.see (covered : Covered next (u :: work) seen) :
    Covered next ((next u).reverse ++ work) (u :: seen) := by
  intro x hx y step
  rcases List.mem_cons.1 hx with rfl | hx
  · exact .inr (List.mem_append_left work (List.mem_reverse.2 step))
  · rcases covered x hx y step with hy | hy
    · exact .inl (List.mem_cons_of_mem u hy)
    · rcases List.mem_cons.1 hy with rfl | hy
      · exact .inl List.mem_cons_self
      · exact .inr (List.mem_append_right _ hy)

theorem reaches_from_cons :
    (∃ w ∈ u :: work, Reaches next w v) ↔
      Reaches next u v ∨ ∃ w ∈ work, Reaches next w v := by
  simp only [List.mem_cons, or_and_right, exists_or, exists_eq_left]

theorem reaches_from_neighbours :
    (∃ w ∈ (next u).reverse ++ work, Reaches next w v) ↔
      (∃ w ∈ next u, Reaches next w v) ∨ ∃ w ∈ work, Reaches next w v := by
  simp only [List.mem_append, List.mem_reverse, or_and_right, exists_or]

/-! ## Searches -/

/-- What a search answers with: everything that can be reached, each number once. -/
structure Finds (next : Nat → List Nat) (work seen found : List Nat) : Prop where
  nodup : found.Nodup
  mem_iff : ∀ v, v ∈ found ↔ v ∈ seen ∨ ∃ w ∈ work, Reaches next w v

/-- **A search is exact.** -/
theorem search_exact (nodup : seen.Nodup) (own : ∀ u ∈ seen, u ∈ nodes)
    (covered : Covered next work seen) :
    (∃ found, search nodes next work seen = .ok found ∧ Finds next work seen found ∧
        ∀ u ∈ found, u ∈ nodes) ∨
      ∃ u, search nodes next work seen = .error u ∧ (∃ w ∈ work, Reaches next w u) ∧
        u ∉ nodes := by
  induction work, seen using search.induct nodes next with
  | case1 seen =>
    rw [search]
    exact .inl ⟨seen, rfl, ⟨nodup, by simp⟩, own⟩
  | case2 seen u rest old ih =>
    rw [search, dif_pos old]
    rcases ih nodup own (covered.drop old) with
      ⟨found, answered, finds, inside⟩ | ⟨x, stopped, ⟨w, hw, path⟩, foreign⟩
    · refine .inl ⟨found, answered, ⟨finds.nodup, fun v ↦ ?_⟩, inside⟩
      rw [finds.mem_iff, reaches_from_cons]
      constructor
      · exact Or.imp_right .inr
      · rintro (hv | path | waiting)
        · exact .inl hv
        · exact (covered.drop old).seen_or_reaches old path
        · exact .inr waiting
    · exact .inr ⟨x, stopped, ⟨w, List.mem_cons_of_mem u hw, path⟩, foreign⟩
  | case3 seen u rest new mem ih =>
    rw [search, dif_neg new, dif_pos mem]
    rcases ih (List.nodup_cons.2 ⟨new, nodup⟩) (List.forall_mem_cons.2 ⟨mem, own⟩) covered.see with
      ⟨found, answered, finds, inside⟩ | ⟨x, stopped, reached, foreign⟩
    · refine .inl ⟨found, answered, ⟨finds.nodup, fun v ↦ ?_⟩, inside⟩
      rw [finds.mem_iff, reaches_from_neighbours, reaches_from_cons, reaches_iff, List.mem_cons]
      exact or_or_or_comm.trans or_left_comm
    · refine .inr ⟨x, stopped, ?_, foreign⟩
      rw [reaches_from_cons, reaches_iff]
      exact (reaches_from_neighbours.1 reached).imp_left .inr
  | case4 seen u rest new foreign =>
    rw [search, dif_neg new, dif_neg foreign]
    exact .inr ⟨u, rfl, ⟨u, List.mem_cons_self, .refl⟩, foreign⟩

/-- A search from one number answers with what can be reached from there, unless a number outside
the graph is among it. -/
theorem search_from (nodes : List Nat) (next : Nat → List Nat) (start : Nat) :
    (∃ found, search nodes next [start] [] = .ok found ∧ found.Nodup ∧
        (∀ u, u ∈ found ↔ Reaches next start u) ∧ ∀ u, Reaches next start u → u ∈ nodes) ∨
      ∃ u, search nodes next [start] [] = .error u ∧ Reaches next start u ∧ u ∉ nodes := by
  have only (u : Nat) : (∃ w ∈ [start], Reaches next w u) ↔ Reaches next start u := by simp
  have own : ∀ u ∈ ([] : List Nat), u ∈ nodes := by simp
  have covered : Covered next [start] [] := by simp [Covered]
  rcases search_exact List.nodup_nil own covered with
    ⟨found, answered, finds, inside⟩ | ⟨u, stopped, reached, foreign⟩
  · have mem_iff (u : Nat) : u ∈ found ↔ Reaches next start u := by
      rw [finds.mem_iff, only]
      simp
    exact .inl ⟨found, answered, finds.nodup, mem_iff, fun u path ↦ inside u ((mem_iff u).2 path)⟩
  · exact .inr ⟨u, stopped, (only u).1 reached, foreign⟩

/-- In a graph that contains all that can be reached, a search answers. -/
theorem search_of_own (own : ∀ u, Reaches next start u → u ∈ nodes) :
    ∃ found, search nodes next [start] [] = .ok found ∧ found.Nodup ∧
      ∀ u, u ∈ found ↔ Reaches next start u := by
  rcases search_from nodes next start with
    ⟨found, answered, nodup, mem_iff, -⟩ | ⟨u, -, path, foreign⟩
  · exact ⟨found, answered, nodup, mem_iff⟩
  · exact absurd (own u path) foreign

end Flowcheck.Ir
