import Flowcheck.Proofs.Ir.WellFormed

/-!
# Numbers and bodies under changes

A new node takes the next number, so the numbers stay distinct. Every body that a change writes is
written under its own number, and is well formed because the change of the body was.
-/

namespace Flowcheck.Ir

open Store

variable {s s' : Store} {c : Change}

/-! ## Numbers -/

namespace Store.Numbered

/-- A number that is still to be given away is nowhere in the store. -/
theorem unused (h : s.Numbered) {uid : Nat} (hu : s.nextUid ≤ uid) : s.Unused uid := by
  have absent : uid ∉ s.uids := fun mem ↦ absurd (h.lt uid mem) (Nat.not_lt.2 hu)
  simp only [uids, List.mem_append, not_or] at absent
  obtain ⟨⟨⟨⟨bundle, function⟩, body⟩, home⟩, statement⟩ := absent
  exact ⟨bundle, function, body, home, statement⟩

theorem unused_next (h : s.Numbered) : s.Unused s.nextUid := h.unused (Nat.le_refl _)

/-- New nodes with new numbers. -/
theorem grow (h : s.Numbered) (news : List Nat)
    (count : ∀ uid, s'.uids.count uid = s.uids.count uid + news.count uid) (nodup : news.Nodup)
    (le : s.nextUid ≤ s'.nextUid)
    (range : ∀ uid ∈ news, s.nextUid ≤ uid ∧ uid < s'.nextUid) : s'.Numbered := by
  have perm : s'.uids.Perm (s.uids ++ news) := by
    rw [List.perm_iff_count]
    intro uid
    rw [count, List.count_append]
  constructor
  · rw [perm.nodup_iff, List.nodup_append]
    refine ⟨h.nodup, nodup, fun u hu v hv ↦ ?_⟩
    have := h.lt u hu
    have := (range v hv).1
    omega
  · intro uid hu
    rcases List.mem_append.1 (perm.subset hu) with hu | hu
    · exact Nat.lt_of_lt_of_le (h.lt uid hu) le
    · exact (range uid hu).2

theorem same (h : s.Numbered) (uids : s'.uids = s.uids) (le : s.nextUid ≤ s'.nextUid) :
    s'.Numbered :=
  h.grow [] (by simp [uids]) .nil le (by simp)

/-- One node more. -/
theorem one (h : s.Numbered)
    (count : ∀ uid, s'.uids.count uid = s.uids.count uid + [s.nextUid].count uid)
    (next : s'.nextUid = s.nextUid + 1) : s'.Numbered := by
  refine h.grow [s.nextUid] count (by simp) (by omega) fun uid hu ↦ ?_
  rw [List.mem_singleton.1 hu]
  omega

end Store.Numbered

theorem Store.count_uids (s : Store) (uid : Nat) :
    s.uids.count uid = s.bundles.keys.count uid + s.functions.keys.count uid +
      s.bodies.keys.count uid + s.homes.keys.count uid + s.statements.keys.count uid := by
  simp only [uids, List.count_append]

theorem Step.numbered (h : s.WellFormed) (step : Step s c s') : s'.Numbered := by
  have hn := h.numbered
  obtain ⟨bundle, function, body, home, statement⟩ := hn.unused_next
  have old {uid : Nat} {b : Body} (hb : s.bodies.get? uid = some b) : b.uid ∈ s.bodies.keys := by
    rw [h.uid_eq uid b hb]
    exact Assoc.mem_keys_of_get? hb
  cases step with
  | spend => exact hn.same rfl (Nat.le_succ _)
  | newBundle name =>
    refine hn.one (fun uid ↦ ?_) rfl
    simp only [count_uids, Assoc.count_keys_insert_new bundle, functions_spend, bodies_spend,
      homes_spend, statements_spend]
    omega
  | newBody =>
    refine hn.one (fun uid ↦ ?_) rfl
    simp only [count_uids, Assoc.count_keys_insert_new body, bundles_spend, functions_spend,
      homes_spend, statements_spend]
    omega
  | newBlock name hb =>
    refine hn.one (fun uid ↦ ?_) rfl
    simp only [count_uids, Assoc.count_keys_insert_new home, bundles_spend, functions_spend,
      bodies_spend, statements_spend]
    omega
  | newFunction _ hb _ =>
    refine hn.one (fun uid ↦ ?_) rfl
    simp only [count_uids, Assoc.count_keys_insert_new function, Assoc.keys_insert_old (old hb),
      bundles_spend, homes_spend, statements_spend]
    omega
  | newFunctionAndBody _ =>
    have body' : s.nextUid + 1 ∉ s.bodies.keys := (hn.unused (Nat.le_succ _)).body
    have range : ∀ uid ∈ [s.nextUid] ++ [s.nextUid + 1],
        s.nextUid ≤ uid ∧ uid < s.nextUid + 1 + 1 := by
      intro uid hu
      have : uid = s.nextUid ∨ uid = s.nextUid + 1 := by simpa using hu
      omega
    refine hn.grow ([s.nextUid] ++ [s.nextUid + 1]) (fun uid ↦ ?_) (by simp)
      (Nat.le_add_right _ 2) range
    simp only [count_uids, Assoc.count_keys_insert_new function,
      Assoc.count_keys_insert_new body', List.count_append, bundles_spend, homes_spend,
      statements_spend]
    omega
  | newStatement _ _ =>
    refine hn.one (fun uid ↦ ?_) rfl
    simp only [count_uids, Assoc.count_keys_insert_new statement, bundles_spend, functions_spend,
      bodies_spend, homes_spend]
    omega
  | addFunction hb hf _ _ =>
    refine hn.same ?_ (Nat.le_refl _)
    simp only [uids, Assoc.keys_insert_old (Assoc.mem_keys_of_get? hb),
      Assoc.keys_insert_old (Assoc.mem_keys_of_get? hf)]
  | addBlock hb _ _ _ =>
    refine hn.one (fun uid ↦ ?_) rfl
    simp only [count_uids, Assoc.count_keys_insert_new home, Assoc.keys_insert_old (old hb),
      bundles_spend, functions_spend, statements_spend]
    omega
  | addStatement _ hb he _ _ =>
    refine hn.same ?_ (Nat.le_refl _)
    simp only [uids, Assoc.keys_insert_old (old hb),
      Assoc.keys_insert_old (Assoc.mem_keys_of_get? he)]
  | edit hb he =>
    refine hn.same ?_ (Nat.le_refl _)
    simp only [uids, he.uid_eq, Assoc.keys_insert_old (old hb)]
  | freezeBundle hb =>
    refine hn.same ?_ (Nat.le_refl _)
    simp only [uids, Assoc.keys_insert_old (Assoc.mem_keys_of_get? hb)]
  | handOut hb =>
    refine hn.same ?_ (Nat.le_refl _)
    simp only [uids, Assoc.keys_insert_old (Assoc.mem_keys_of_get? hb)]

/-! ## Bodies -/

namespace Store.WellFormed

/-- A block in the store has a home, so it does not have the next number. -/
theorem uid_ne_next (h : s.WellFormed) {bb : Block} (held : s.Holds bb) : bb.uid ≠ s.nextUid := by
  have home : ∃ body, s.homes.get? bb.uid = some body := by
    rcases held with ⟨body, hbb⟩ | stray
    · exact ⟨body, h.housed.listed body bb hbb⟩
    · obtain ⟨body, home, -⟩ := h.housed.stray bb stray
      exact ⟨body, home⟩
  obtain ⟨body, home⟩ := home
  intro next
  rw [next] at home
  exact h.numbered.unused_next.home (Assoc.mem_keys_of_get? home)

theorem next_notMem_uids (h : s.WellFormed) {body : Nat} {b : Body}
    (hb : s.bodies.get? body = some b) : s.nextUid ∉ b.uids := by
  intro listed
  obtain ⟨bb, hbb, same⟩ := Body.mem_uids_iff.1 listed
  exact h.uid_ne_next (.inl ⟨body, by rwa [blocksOf_eq hb]⟩) same

end Store.WellFormed

theorem Step.body (h : s.WellFormed) (step : Step s c s') :
    ∀ uid b, s'.bodies.get? uid = some b → b.uid = uid ∧ b.WellFormed := by
  have old (uid : Nat) (b : Body) (hb : s.bodies.get? uid = some b) : b.uid = uid ∧ b.WellFormed :=
    ⟨h.uid_eq uid b hb, h.body uid b hb⟩
  cases step with
  | spend => exact old
  | newBundle _ => exact old
  | newBody => exact Assoc.forall_get?_insert ⟨rfl, Body.wellFormed_empty _ none⟩ old
  | newBlock _ _ => exact old
  | newFunction _ hb _ =>
    exact Assoc.forall_get?_insert ⟨rfl, (old _ _ hb).2.owner _⟩ old
  | newFunctionAndBody _ =>
    exact Assoc.forall_get?_insert ⟨rfl, Body.wellFormed_empty _ _⟩ old
  | newStatement _ _ => exact old
  | addFunction _ _ _ _ => exact old
  | addBlock hb _ hn new =>
    have fresh := h.next_notMem_uids hb
    exact Assoc.forall_get?_insert ⟨rfl, (old _ _ hb).2.pushBlock fresh hn new⟩ old
  | addStatement _ hb _ _ _ =>
    exact Assoc.forall_get?_insert ⟨rfl, (old _ _ hb).2.pushStatement _ _⟩ old
  | edit hb he => exact Assoc.forall_get?_insert ⟨rfl, (old _ _ hb).2.edits he⟩ old
  | freezeBundle _ => exact old
  | handOut _ => exact old

end Flowcheck.Ir
