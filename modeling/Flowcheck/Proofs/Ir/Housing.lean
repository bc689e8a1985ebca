import Flowcheck.Proofs.Ir.Numbering

/-!
# Homes of blocks under changes

Only three changes touch what is known about blocks. A new block gets a home, listed there or not,
and a statement is appended to a block wherever that block is; nothing else writes a list of blocks
other than it was.
-/

namespace Flowcheck.Ir

open Store

variable {s s' : Store} {c : Change}

/-! ## Blocks -/

theorem Store.blocksOf_insert {body : Nat} {b : Body} (hs : s'.bodies = s.bodies.insert body b)
    (k : Nat) : s'.blocksOf k = if body = k then b.blocks else s.blocksOf k := by
  rw [blocksOf, blocksOf, hs, Assoc.get?_insert]
  split <;> rfl

/-- A body that is written with the blocks that it had. -/
theorem Store.blocksOf_insert_same {body : Nat} {b : Body}
    (hs : s'.bodies = s.bodies.insert body b) (same : b.blocks = s.blocksOf body) (k : Nat) :
    s'.blocksOf k = s.blocksOf k := by
  rw [blocksOf, hs]
  exact Assoc.read_insert_same (fun b? ↦ (b?.map Body.blocks).getD []) same k

namespace Store.WellFormed

theorem blocksOf_uid (h : s.WellFormed) {body : Nat} {b : Body} (hb : s.bodies.get? body = some b) :
    s.blocksOf b.uid = b.blocks := by
  rw [h.uid_eq body b hb, blocksOf_eq hb]

theorem blocksOf_fresh (h : s.WellFormed) {uid : Nat} (hu : s.nextUid ≤ uid) :
    s.blocksOf uid = [] := by
  rw [blocksOf, Assoc.get?_eq_none_iff.2 (h.numbered.unused hu).body]
  rfl

theorem home_insert_next (h : s.WellFormed) {body : Nat} {bb : Block} (held : s.Holds bb) :
    (s.homes.insert s.nextUid body).get? bb.uid = s.homes.get? bb.uid := by
  rw [Assoc.get?_insert, if_neg (h.uid_ne_next held).symm]

end Store.WellFormed

theorem Store.Housed.same (h : s.Housed) (blocks : ∀ k, s'.blocksOf k = s.blocksOf k)
    (homes : s'.homes = s.homes) (strays : s'.strays = s.strays)
    (keys : ∀ k ∈ s.bodies.keys, k ∈ s'.bodies.keys) : s'.Housed := by
  constructor
  · simpa only [blocks, homes] using h.listed
  · simpa only [blocks, homes, strays] using h.stray
  · intro uid body home
    rw [homes] at home
    obtain ⟨key, bb, hu, hbb⟩ := h.home uid body home
    refine ⟨keys body key, bb, hu, ?_⟩
    rwa [blocks, strays]
  · rw [strays]
    exact h.strays_nodup

/-- What adding a block does to the lists of blocks. -/
theorem Store.WellFormed.mem_blocksOf_addBlock (h : s.WellFormed) {body : Nat} {b : Body}
    {name : String} (hb : s.bodies.get? body = some b)
    (hs : s'.bodies = s.bodies.insert b.uid (b.pushBlock s.nextUid name)) (k : Nat) (bb : Block) :
    bb ∈ s'.blocksOf k ↔ bb ∈ s.blocksOf k ∨ (body = k ∧ bb = ⟨s.nextUid, name, []⟩) := by
  rw [h.uid_eq body b hb] at hs
  rw [blocksOf_insert hs]
  by_cases hk : body = k
  · subst hk
    rw [if_pos rfl, blocksOf_eq hb, Body.pushBlock, List.mem_append, List.mem_singleton]
    simp
  · rw [if_neg hk]
    simp [hk]

/-- What adding a statement does to the lists of blocks: the one with the number `block` is in the
changed body alone. -/
theorem Store.WellFormed.blocksOf_addStatement (h : s.WellFormed) {block body : Nat} {b : Body}
    {st : Statement} (home : s.homes.get? block = some body) (hb : s.bodies.get? body = some b)
    (hs : s'.bodies = s.bodies.insert b.uid (b.pushStatement block st)) (k : Nat) :
    s'.blocksOf k = appendStatement (s.blocksOf k) block st := by
  rw [h.uid_eq body b hb] at hs
  rw [blocksOf_insert hs]
  split
  · rename_i hk
    subst hk
    rw [blocksOf_eq hb]
    rfl
  · rename_i hk
    refine ((List.map_congr_left fun bb hbb ↦ ?_).trans (List.map_id _)).symm
    refine Body.receive_of_ne (fun same ↦ hk ?_) st
    have home' := h.housed.listed k bb hbb
    rw [same, home] at home'
    exact Option.some.inj home'

theorem Store.Housed.newBlock (h : s.WellFormed) {body : Nat} {b : Body} {name : String}
    (hb : s.bodies.get? body = some b) (blocks : ∀ k, s'.blocksOf k = s.blocksOf k)
    (bodies : s'.bodies = s.bodies) (homes : s'.homes = s.homes.insert s.nextUid body)
    (strays : s'.strays = s.strays ++ [⟨s.nextUid, name, []⟩]) : s'.Housed := by
  have hh := h.housed
  constructor
  · intro k bb hbb
    rw [blocks] at hbb
    rw [homes, h.home_insert_next (.inl ⟨k, hbb⟩)]
    exact hh.listed k bb hbb
  · intro bb hbb
    rw [strays] at hbb
    simp only [blocks, homes]
    rcases List.mem_append.1 hbb with hbb | hbb
    · rw [h.home_insert_next (.inr hbb)]
      exact hh.stray bb hbb
    · rw [List.mem_singleton.1 hbb, Assoc.get?_insert, if_pos rfl]
      exact ⟨body, rfl, fun bb' hbb' ↦ h.uid_ne_next (.inl ⟨body, hbb'⟩)⟩
  · intro uid k home
    rw [homes, Assoc.get?_insert] at home
    simp only [blocks, bodies, strays]
    split at home
    · rename_i hu
      obtain rfl := Option.some.inj home
      refine ⟨Assoc.mem_keys_of_get? hb, ⟨s.nextUid, name, []⟩, hu, ?_⟩
      exact .inr (List.mem_append_right _ (List.mem_singleton.2 rfl))
    · obtain ⟨key, bb, hu, hbb⟩ := hh.home uid k home
      exact ⟨key, bb, hu, hbb.imp_right (List.mem_append_left _)⟩
  · rw [strays, List.map_append, List.map_singleton, ← List.concat_eq_append]
    refine List.Nodup.concat (fun mem ↦ ?_) hh.strays_nodup
    obtain ⟨bb, hbb, same⟩ := List.mem_map.1 mem
    exact h.uid_ne_next (.inr hbb) same

theorem Store.Housed.addBlock (h : s.WellFormed) {body : Nat} {name : String}
    (blocks : ∀ k bb, bb ∈ s'.blocksOf k ↔
      bb ∈ s.blocksOf k ∨ (body = k ∧ bb = ⟨s.nextUid, name, []⟩))
    (key : body ∈ s'.bodies.keys) (keys : ∀ k ∈ s.bodies.keys, k ∈ s'.bodies.keys)
    (homes : s'.homes = s.homes.insert s.nextUid body) (strays : s'.strays = s.strays) :
    s'.Housed := by
  have hh := h.housed
  constructor
  · intro k bb hbb
    rw [homes]
    rcases (blocks k bb).1 hbb with hbb | ⟨rfl, rfl⟩
    · rw [h.home_insert_next (.inl ⟨k, hbb⟩)]
      exact hh.listed k bb hbb
    · rw [Assoc.get?_insert, if_pos rfl]
  · intro bb hbb
    rw [strays] at hbb
    obtain ⟨k, home, unlisted⟩ := hh.stray bb hbb
    rw [homes, h.home_insert_next (.inr hbb)]
    refine ⟨k, home, fun bb' hbb' ↦ ?_⟩
    rcases (blocks k bb').1 hbb' with hbb' | ⟨_, rfl⟩
    · exact unlisted bb' hbb'
    · exact (h.uid_ne_next (.inr hbb)).symm
  · intro uid k home
    rw [homes, Assoc.get?_insert] at home
    simp only [strays]
    split at home
    · rename_i hu
      obtain rfl := Option.some.inj home
      exact ⟨key, _, hu, .inl ((blocks body _).2 (.inr ⟨rfl, rfl⟩))⟩
    · obtain ⟨key', bb, hu, hbb⟩ := hh.home uid k home
      exact ⟨keys k key', bb, hu, hbb.imp_left fun hbb ↦ (blocks k bb).2 (.inl hbb)⟩
  · rw [strays]
    exact hh.strays_nodup

theorem Store.Housed.addStatement (h : s.Housed) {block : Nat} {st : Statement}
    (blocks : ∀ k, s'.blocksOf k = appendStatement (s.blocksOf k) block st)
    (keys : ∀ k ∈ s.bodies.keys, k ∈ s'.bodies.keys) (homes : s'.homes = s.homes)
    (strays : s'.strays = appendStatement s.strays block st) : s'.Housed := by
  constructor
  · intro k bb' hbb'
    rw [blocks] at hbb'
    obtain ⟨bb, hbb, rfl⟩ := List.mem_map.1 hbb'
    rw [homes, Body.uid_receive]
    exact h.listed k bb hbb
  · intro bb' hbb'
    rw [strays] at hbb'
    obtain ⟨bb, hbb, rfl⟩ := List.mem_map.1 hbb'
    obtain ⟨k, home, unlisted⟩ := h.stray bb hbb
    rw [homes, Body.uid_receive]
    refine ⟨k, home, fun other' hother' ↦ ?_⟩
    rw [blocks] at hother'
    obtain ⟨other, hother, rfl⟩ := List.mem_map.1 hother'
    rw [Body.uid_receive]
    exact unlisted other hother
  · intro uid k home
    rw [homes] at home
    obtain ⟨key, bb, hu, hbb⟩ := h.home uid k home
    rw [blocks, strays]
    refine ⟨keys k key, bb.receive block st, (Body.uid_receive _ _ _).trans hu, ?_⟩
    exact hbb.imp List.mem_map_of_mem List.mem_map_of_mem
  · rw [strays, Body.map_uid_appendStatement]
    exact h.strays_nodup

theorem Step.housed (h : s.WellFormed) (step : Step s c s') : s'.Housed := by
  have hh := h.housed
  have keys (uid : Nat) (b : Body) : ∀ k ∈ s.bodies.keys, k ∈ (s.bodies.insert uid b).keys :=
    fun k hk ↦ Assoc.mem_keys_insert.2 (.inr hk)
  cases step with
  | spend => exact hh.same (fun _ ↦ rfl) rfl rfl fun _ ↦ id
  | newBundle _ => exact hh.same (fun _ ↦ rfl) rfl rfl fun _ ↦ id
  | newBody =>
    exact hh.same (blocksOf_insert_same rfl (h.blocksOf_fresh (Nat.le_refl _)).symm) rfl rfl
      (keys _ _)
  | newBlock _ hb => exact Housed.newBlock h hb (fun _ ↦ rfl) rfl rfl rfl
  | newFunction _ hb _ =>
    exact hh.same (blocksOf_insert_same rfl (h.blocksOf_uid hb).symm) rfl rfl (keys _ _)
  | newFunctionAndBody _ =>
    exact hh.same (blocksOf_insert_same rfl (h.blocksOf_fresh (Nat.le_succ _)).symm) rfl rfl
      (keys _ _)
  | newStatement _ _ => exact hh.same (fun _ ↦ rfl) rfl rfl fun _ ↦ id
  | addFunction _ _ _ _ => exact hh.same (fun _ ↦ rfl) rfl rfl fun _ ↦ id
  | addBlock hb _ _ _ =>
    refine Housed.addBlock h (h.mem_blocksOf_addBlock hb rfl) ?_ (keys _ _) rfl rfl
    exact keys _ _ _ (Assoc.mem_keys_of_get? hb)
  | addStatement home hb _ _ _ =>
    exact hh.addStatement (h.blocksOf_addStatement home hb rfl) (keys _ _) rfl rfl
  | edit hb he =>
    refine hh.same (blocksOf_insert_same rfl ?_) rfl rfl (keys _ _)
    rw [he.blocks_eq, he.uid_eq, h.blocksOf_uid hb]
  | freezeBundle _ => exact hh.same (fun _ ↦ rfl) rfl rfl fun _ ↦ id
  | handOut _ => exact hh.same (fun _ ↦ rfl) rfl rfl fun _ ↦ id

end Flowcheck.Ir
