import Flowcheck.Proofs.Ir.Consistency
import Mathlib.Logic.Embedding.Basic

/-!
# Renumbering

A number tells a node from all others and says nothing else about it. Renumbering replaces the
numbers in a node and in everything inside it by others, in the maps and the pointers of bodies as
well, and keeps different numbers different. Nothing that a body is asked depends on which numbers
it has: asked after a renumbering it gives the renumbered answer, in the same order.

Orders come from the order of declaration and from that in which edges were added. A view that went
by the size of numbers would fail here, since an injection need not preserve it.
-/

namespace Flowcheck

/-! ## Maps -/

namespace Assoc

variable {κ κ' ν ν' : Type}

/-- The map with other keys, still distinct, and other values. -/
def map (f : κ ↪ κ') (g : ν → ν') (m : Assoc κ ν) : Assoc κ' ν' where
  entries := m.entries.map (Prod.map f g)
  nodup := by
    have keys : (m.entries.map (Prod.map f g)).map Prod.fst = (m.entries.map Prod.fst).map f := by
      rw [List.map_map, List.map_map]
      rfl
    rw [keys]
    exact m.nodup.map f.injective

variable {f : κ ↪ κ'} {g : ν → ν'} {m : Assoc κ ν}

theorem entries_map : (m.map f g).entries = m.entries.map (Prod.map f g) := rfl

theorem keys_map : (m.map f g).keys = m.keys.map f := by
  rw [keys, keys, entries_map, List.map_map, List.map_map]
  rfl

theorem mem_keys_map_iff {k : κ} : f k ∈ (m.map f g).keys ↔ k ∈ m.keys := by
  rw [keys_map, List.mem_map_of_injective f.injective]

variable [DecidableEq κ] [DecidableEq κ']

theorem get?_map (k : κ) : (m.map f g).get? (f k) = (m.get? k).map g := by
  have key : (fun e : κ' × ν' ↦ decide (e.1 = f k)) ∘ Prod.map f g = fun e ↦ decide (e.1 = k) :=
    funext fun e ↦ decide_eq_decide.2 f.injective.eq_iff
  rw [get?, get?, entries_map, List.find?_map, key, Option.map_map, Option.map_map]
  rfl

theorem modify_map {h : ν → ν} {h' : ν' → ν'} (commutes : ∀ v, h' (g v) = g (h v)) (k : κ) :
    (m.map f g).modify (f k) h' = (m.modify k h).map f g := by
  apply ext_entries
  show ((m.entries.map (Prod.map f g)).map fun e ↦ if e.1 = f k then (e.1, h' e.2) else e) =
    (m.entries.map fun e ↦ if e.1 = k then (e.1, h e.2) else e).map (Prod.map f g)
  rw [List.map_map, List.map_map]
  refine List.map_congr_left fun e _ ↦ ?_
  by_cases hk : e.1 = k <;> simp [hk, commutes]

theorem insert_map (k : κ) (v : ν) : (m.map f g).insert (f k) (g v) = (m.insert k v).map f g := by
  apply ext_entries
  by_cases old : k ∈ m.keys
  · rw [entries_insert_old (mem_keys_map_iff.2 old), entries_map, entries_map,
      entries_insert_old old, List.map_map, List.map_map]
    refine List.map_congr_left fun e _ ↦ ?_
    by_cases hk : e.1 = k <;> simp [hk]
  · rw [entries_insert_new (mt mem_keys_map_iff.1 old), entries_map, entries_map,
      entries_insert_new old, List.map_append, List.map_singleton]
    rfl

end Assoc

namespace Ir

/-! ## Nodes -/

/-- The statement with another number. -/
def Statement.renumber (r : Nat ↪ Nat) (s : Statement) : Statement := { s with uid := r s.uid }

/-- The block with other numbers. -/
def Block.renumber (r : Nat ↪ Nat) (bb : Block) : Block where
  uid := r bb.uid
  name := bb.name
  statements := bb.statements.map (Statement.renumber r)

/-- The owner with another number. -/
def Owner.renumber (r : Nat ↪ Nat) (o : Owner) : Owner := { o with uid := r o.uid }

/-- The body with other numbers, also in its maps and pointers. -/
def Body.renumber (r : Nat ↪ Nat) (b : Body) : Body where
  uid := r b.uid
  owner? := b.owner?.map (Owner.renumber r)
  blocks := b.blocks.map (Block.renumber r)
  byName := b.byName.map (.refl String) r
  succ := b.succ.map r (List.map r)
  pred := b.pred.map r (List.map r)
  entryUid? := b.entryUid?.map r
  exitUid? := b.exitUid?.map r
  frozen := b.frozen

/-- The function with other numbers. -/
def Function.renumber (r : Nat ↪ Nat) (f : Function) : Function where
  uid := r f.uid
  name := f.name
  body := f.body.renumber r

/-- The bundle with other numbers. -/
def Bundle.renumber (r : Nat ↪ Nat) (b : Bundle) : Bundle where
  uid := r b.uid
  name := b.name
  functions := b.functions.map (Function.renumber r)
  frozen := b.frozen

variable {r : Nat ↪ Nat}

theorem map_name_renumber (bbs : List Block) :
    (bbs.map (Block.renumber r)).map Block.name = bbs.map Block.name := by
  rw [List.map_map]
  rfl

theorem map_uid_renumber (bbs : List Block) :
    (bbs.map (Block.renumber r)).map Block.uid = (bbs.map Block.uid).map r := by
  rw [List.map_map, List.map_map]
  rfl

/-! ## Searches -/

/-- A search in a renumbered graph finds the renumbered numbers in the same order. -/
theorem search_map {next next' : Nat → List Nat} (nodes : List Nat) {work seen : List Nat}
    (renumbered : ∀ u, next' (r u) = (next u).map r) :
    search (nodes.map r) next' (work.map r) (seen.map r) =
      match search nodes next work seen with
      | .ok found => .ok (found.map r)
      | .error u => .error (r u) := by
  have mem_iff (us : List Nat) (u : Nat) : r u ∈ us.map r ↔ u ∈ us :=
    List.mem_map_of_injective r.injective
  induction work, seen using search.induct nodes next with
  | case1 seen => rw [List.map_nil, search, search]
  | case2 seen u rest old ih =>
    rw [List.map_cons, search, search, dif_pos ((mem_iff seen u).2 old), dif_pos old, ih]
  | case3 seen u rest new mem ih =>
    rw [List.map_cons, search, search, dif_neg (mt (mem_iff seen u).1 new), dif_neg new,
      dif_pos ((mem_iff nodes u).2 mem), dif_pos mem, ← ih, renumbered, List.map_append,
      List.map_reverse, List.map_cons]
  | case4 seen u rest new foreign =>
    rw [List.map_cons, search, search, dif_neg (mt (mem_iff seen u).1 new), dif_neg new,
      dif_neg (mt (mem_iff nodes u).1 foreign), dif_neg foreign]

namespace Body

variable {b : Body}

/-! ## Questions -/

theorem recorded_map (m : Assoc Nat (List Nat)) (u : Nat) :
    recorded (m.map r (List.map r)) (r u) = (recorded m u).map r := by
  rw [recorded, recorded, Assoc.get?_map]
  cases m.get? u <;> rfl

theorem mem_recorded_map_iff {m : Assoc Nat (List Nat)} {u v : Nat} :
    v ∈ recorded (m.map r (List.map r)) u ↔ ∃ u' v', r u' = u ∧ r v' = v ∧ v' ∈ recorded m u' := by
  simp only [mem_recorded_iff, Assoc.entries_map, List.mem_map]
  constructor
  · rintro ⟨_, ⟨⟨u', vs⟩, entry, same⟩, hv⟩
    obtain ⟨rfl, rfl⟩ := Prod.mk.inj same
    obtain ⟨v', hv', rfl⟩ := List.mem_map.1 hv
    exact ⟨u', v', rfl, rfl, vs, entry, hv'⟩
  · rintro ⟨u', v', rfl, rfl, vs, entry, hv'⟩
    exact ⟨vs.map r, ⟨(u', vs), entry, rfl⟩, List.mem_map_of_mem hv'⟩

theorem uids_renumber (b : Body) : (b.renumber r).uids = b.uids.map r := map_uid_renumber b.blocks

theorem mem_uids_renumber_iff {u : Nat} : r u ∈ (b.renumber r).uids ↔ u ∈ b.uids := by
  rw [uids_renumber, List.mem_map_of_injective r.injective]

theorem block?_renumber (b : Body) (u : Nat) :
    (b.renumber r).block? (r u) = (b.block? u).map (Block.renumber r) := by
  have same : (fun bb : Block ↦ decide (bb.uid = r u)) ∘ Block.renumber r =
      fun bb ↦ decide (bb.uid = u) :=
    funext fun bb ↦ decide_eq_decide.2 r.injective.eq_iff
  rw [block?, block?, renumber, List.find?_map, same]

theorem named?_renumber (b : Body) (name : String) :
    (b.renumber r).named? name = (b.named? name).map (Block.renumber r) := by
  have found : (b.renumber r).byName.get? name = (b.byName.get? name).map r :=
    Assoc.get?_map (f := .refl String) name
  rw [named?, named?, found]
  cases b.byName.get? name with
  | none => rfl
  | some u => exact block?_renumber b u

theorem entry?_renumber (b : Body) :
    Body.entry? (b.renumber r) = b.entry?.map (Block.renumber r) := by
  unfold Body.entry?
  rw [renumber]
  cases b.entryUid? with
  | none => exact List.head?_map
  | some u => exact block?_renumber b u

theorem exit?_renumber (b : Body) : (b.renumber r).exit? = b.exit?.map (Block.renumber r) := by
  rw [exit?, exit?, renumber]
  cases b.exitUid? with
  | none => rfl
  | some u => exact block?_renumber b u

theorem select_renumber (b : Body) (us : List Nat) :
    (b.renumber r).select (us.map r) = (b.select us).map (Block.renumber r) := by
  rw [select, select, renumber, List.filter_map]
  congr 1
  refine List.filter_congr fun bb _ ↦ decide_eq_decide.2 ?_
  exact List.mem_map_of_injective r.injective

theorem select_recorded_renumber (b : Body) (m : Assoc Nat (List Nat)) (u : Nat) :
    (b.renumber r).select (recorded (m.map r (List.map r)) (r u)) =
      (b.select (recorded m u)).map (Block.renumber r) := by
  rw [recorded_map, select_renumber]

theorem targets_renumber (b : Body) (u : Nat) :
    (b.renumber r).targets (r u) = (b.targets u).map (Block.renumber r) :=
  select_recorded_renumber b b.succ u

theorem sources_renumber (b : Body) (u : Nat) :
    (b.renumber r).sources (r u) = (b.sources u).map (Block.renumber r) :=
  select_recorded_renumber b b.pred u

theorem edges_renumber (b : Body) :
    (b.renumber r).edges = b.edges.map (Prod.map (Block.renumber r) (Block.renumber r)) := by
  rw [edges, edges, List.map_flatMap]
  show (b.blocks.map (Block.renumber r)).flatMap _ = _
  rw [List.flatMap_map]
  refine List.flatMap_congr fun src _ ↦ ?_
  rw [List.map_map]
  show ((b.renumber r).targets (r src.uid)).map _ = _
  rw [targets_renumber, List.map_map]
  rfl

/-! ## Changes -/

theorem pushBlock_renumber (b : Body) (uid : Nat) (name : String) :
    (b.renumber r).pushBlock (r uid) name = (b.pushBlock uid name).renumber r := by
  have byName : (b.renumber r).byName.insert name (r uid) =
      (b.byName.insert name uid).map (.refl String) r :=
    Assoc.insert_map (f := .refl String) name uid
  have adjacency (m : Assoc Nat (List Nat)) : (m.map r (List.map r)).insert (r uid) [] =
      (m.insert uid []).map r (List.map r) := Assoc.insert_map uid []
  rw [pushBlock, pushBlock, byName]
  simp [renumber, adjacency, Block.renumber]

theorem adjoin_map (uids : List Nat) (uid : Nat) :
    adjoin (uids.map r) (r uid) = (adjoin uids uid).map r := by
  rw [adjoin, adjoin]
  by_cases old : uid ∈ uids
  · rw [if_pos ((List.mem_map_of_injective r.injective).2 old), if_pos old]
  · rw [if_neg (mt (List.mem_map_of_injective r.injective).1 old), if_neg old, List.map_append,
      List.map_singleton]

theorem link_renumber (b : Body) (src dst : Nat) :
    (b.renumber r).link (r src) (r dst) = (b.link src dst).renumber r := by
  have adjacency (m : Assoc Nat (List Nat)) (key uid : Nat) :
      (m.map r (List.map r)).modify (r key) (fun uids ↦ adjoin uids (r uid)) =
        (m.modify key fun uids ↦ adjoin uids uid).map r (List.map r) :=
    Assoc.modify_map (fun uids ↦ adjoin_map uids uid) key
  rw [link, link]
  simp [renumber, adjacency]

theorem receive_renumber (uid : Nat) (st : Statement) (bb : Block) :
    (bb.renumber r).receive (r uid) (st.renumber r) = (bb.receive uid st).renumber r := by
  rw [Block.receive, Block.receive]
  by_cases h : bb.uid = uid
  · have h' : (bb.renumber r).uid = r uid := congrArg r h
    rw [if_pos h, if_pos h']
    simp [Block.renumber]
  · have h' : ¬ (bb.renumber r).uid = r uid := fun same ↦ h (r.injective same)
    rw [if_neg h, if_neg h']

theorem pushStatement_renumber (b : Body) (block : Nat) (st : Statement) :
    (b.renumber r).pushStatement (r block) (st.renumber r) =
      (b.pushStatement block st).renumber r := by
  have blocks : appendStatement (b.blocks.map (Block.renumber r)) (r block) (st.renumber r) =
      (appendStatement b.blocks block st).map (Block.renumber r) := by
    rw [appendStatement, appendStatement, List.map_map, List.map_map]
    exact List.map_congr_left fun bb _ ↦ receive_renumber block st bb
  rw [pushStatement, pushStatement]
  simp [renumber, blocks]

/-! ## Well-formed bodies -/

theorem WellFormed.renumber (h : b.WellFormed) (r : Nat ↪ Nat) : (b.renumber r).WellFormed := by
  have nodup {m : Assoc Nat (List Nat)} (each : ∀ u, (recorded m u).Nodup) (u : Nat) :
      (recorded (m.map r (List.map r)) u).Nodup := by
    by_cases used : ∃ u', r u' = u
    · obtain ⟨u', rfl⟩ := used
      rw [recorded_map]
      exact (each u').map r.injective
    · have nothing : recorded (m.map r (List.map r)) u = [] := by
        refine List.eq_nil_iff_forall_not_mem.2 fun v hv ↦ ?_
        obtain ⟨u', -, hu, -, -⟩ := mem_recorded_map_iff.1 hv
        exact used ⟨u', hu⟩
      rw [nothing]
      exact List.nodup_nil
  constructor
  case uids_nodup => exact uids_renumber b ▸ h.uids_nodup.map r.injective
  case index =>
    show b.byName.entries.map _ = (b.blocks.map _).map _
    rw [h.index, List.map_map, List.map_map]
    rfl
  case name_ne =>
    intro bb hbb
    obtain ⟨old, hold, rfl⟩ := List.mem_map.1 hbb
    exact h.name_ne old hold
  case succ_keys =>
    rw [uids_renumber, ← h.succ_keys]
    exact Assoc.keys_map
  case pred_keys =>
    rw [uids_renumber, ← h.pred_keys]
    exact Assoc.keys_map
  case dual =>
    intro src dst
    rw [Body.renumber, mem_recorded_map_iff, mem_recorded_map_iff]
    constructor
    · rintro ⟨s, d, rfl, rfl, edge⟩
      exact ⟨d, s, rfl, rfl, (h.dual s d).1 edge⟩
    · rintro ⟨d, s, rfl, rfl, edge⟩
      exact ⟨s, d, rfl, rfl, (h.dual s d).2 edge⟩
  case succ_nodup => exact nodup h.succ_nodup
  case pred_nodup => exact nodup h.pred_nodup
  case entry_own =>
    intro u hu
    obtain ⟨v, hv, rfl⟩ := Option.map_eq_some_iff.1 hu
    exact mem_uids_renumber_iff.2 (h.entry_own v hv)
  case exit_own =>
    intro u hu
    obtain ⟨v, hv, rfl⟩ := Option.map_eq_some_iff.1 hu
    exact mem_uids_renumber_iff.2 (h.exit_own v hv)

/-! ### Their neighbours and what they reach -/

namespace WellFormed

variable (h : b.WellFormed) {bb : Block} (own : bb.uid ∈ b.uids)

include h own

theorem nextBlocks_renumber :
    (b.renumber r).nextBlocks (bb.renumber r) =
      (List.map (Block.renumber r)) <$> b.nextBlocks bb := by
  rw [h.nextBlocks_ok own, (h.renumber r).nextBlocks_ok (mem_uids_renumber_iff.2 own)]
  exact congrArg Except.ok (targets_renumber b bb.uid)

theorem prevBlocks_renumber :
    (b.renumber r).prevBlocks (bb.renumber r) =
      (List.map (Block.renumber r)) <$> b.prevBlocks bb := by
  rw [h.prevBlocks_ok own, (h.renumber r).prevBlocks_ok (mem_uids_renumber_iff.2 own)]
  exact congrArg Except.ok (sources_renumber b bb.uid)

end WellFormed

theorem filterMap_block?_renumber (b : Body) (us : List Nat) :
    (us.map r).filterMap (b.renumber r).block? =
      (us.filterMap b.block?).map (Block.renumber r) := by
  rw [List.filterMap_map, List.map_filterMap]
  exact List.filterMap_congr fun u _ ↦ block?_renumber b u

theorem WellFormed.reachableFrom_renumber (h : b.WellFormed) {start? : Option Block}
    (own : ∀ bb, start? = some bb → bb.uid ∈ b.uids) :
    (b.renumber r).reachableFrom (start?.map (Block.renumber r)) =
      (List.map (Block.renumber r)) <$> b.reachableFrom start? := by
  have asked : (start?.map (Block.renumber r)).or (Body.entry? (b.renumber r)) =
      (start?.or b.entry?).map (Block.renumber r) := by
    rw [entry?_renumber]
    cases start? <;> rfl
  cases hs : start?.or b.entry? with
  | none =>
    rw [hs] at asked
    rw [reachableFrom, reachableFrom, hs, asked]
    rfl
  | some start =>
    rw [hs] at asked
    have startOwn := start_own own hs
    obtain ⟨found, hf, -, -⟩ := h.search_own startOwn
    have moved : search (b.renumber r).uids (recorded (b.renumber r).succ)
        [(start.renumber r).uid] [] = .ok (found.map r) := by
      rw [uids_renumber]
      show search (b.uids.map r) _ ([start.uid].map r) (List.map r []) = _
      refine (search_map b.uids (recorded_map b.succ)).trans ?_
      rw [hf]
    rw [h.reachableFrom_of_search hs startOwn hf,
      (h.renumber r).reachableFrom_of_search asked (mem_uids_renumber_iff.2 startOwn) moved,
      ← List.map_reverse, filterMap_block?_renumber]
    rfl

end Body

end Ir

end Flowcheck
