import Flowcheck.Proofs.Ir.Invariant
import Mathlib.Logic.Relation

/-!
# Bundles of well-formed stores

What a caller gets to see of a store is a bundle with everything in it. In a well-formed store its
functions have different names, their bodies are well formed, and nothing in it has an empty name or
an empty opcode. Less is left once the adjacency maps of a body have been written directly, but
blocks can still be found by name and asked for their successors.
-/

namespace Flowcheck.Ir

variable {s : Store}

/-! ## Well-formed bundles -/

/-- The functions of a bundle and what is in them. -/
structure Bundle.WellFormed (b : Bundle) : Prop where
  names_nodup : (b.functions.map Function.name).Nodup
  name_ne : ∀ f ∈ b.functions, f.name ≠ ""
  body : ∀ f ∈ b.functions, f.body.WellFormed
  opcode_ne : ∀ f ∈ b.functions, ∀ bb ∈ f.body.blocks, ∀ st ∈ bb.statements, st.opcode ≠ ""

theorem Bundle.WellFormed.validate_ok {b : Bundle} (h : b.WellFormed) : b.validate = .ok () :=
  forM_eq_ok fun f hf ↦ (h.body f hf).check_ok

/-- The entries behind a function that was found. -/
theorem Store.entries_of_function? {uid : Nat} {f : Function} (hf : s.function? uid = some f) :
    f.uid = uid ∧ ∃ entry, s.functions.get? uid = some entry ∧ entry.name = f.name ∧
      s.bodies.get? entry.body = some f.body := by
  obtain ⟨entry, hentry, hf⟩ := Option.bind_eq_some_iff.1 hf
  obtain ⟨b, hb, hf⟩ := Option.bind_eq_some_iff.1 hf
  obtain rfl := Option.some.inj hf
  exact ⟨rfl, entry, hentry, rfl, hb⟩

/-- Looking functions up loses no name. -/
theorem Store.map_name_function? (s : Store) {fs : List Nat}
    (found : ∀ uid ∈ fs, (s.function? uid).isSome) :
    (fs.filterMap s.function?).map Function.name = s.functionNames fs := by
  rw [functionNames, List.map_filterMap]
  refine List.filterMap_congr fun uid hu ↦ ?_
  obtain ⟨f, hf⟩ := Option.isSome_iff_exists.1 (found uid hu)
  obtain ⟨-, entry, hentry, name, -⟩ := entries_of_function? hf
  rw [hf, functionName?, hentry, Option.map_some, Option.map_some, name]

namespace Store.WellFormed

theorem function (h : s.WellFormed) {uid : Nat} {f : Function} (hf : s.function? uid = some f) :
    f.name ≠ "" ∧ f.body.WellFormed ∧
      ∀ bb ∈ f.body.blocks, ∀ st ∈ bb.statements, st.opcode ≠ "" := by
  obtain ⟨-, entry, hentry, name, hbody⟩ := entries_of_function? hf
  refine ⟨name ▸ h.owned.name_ne uid entry hentry, h.body _ _ hbody, fun bb hbb st hst ↦ ?_⟩
  have held : s.Holds bb := .inl ⟨entry.body, by rwa [blocksOf_eq hbody]⟩
  exact h.placed.opcode_ne _ _ (h.placed.listed bb held st hst)

/-- **The bundles of a well-formed store are well formed.** -/
theorem bundle (h : s.WellFormed) {uid : Nat} {b : Bundle} (hb : s.bundle? uid = some b) :
    b.WellFormed := by
  obtain ⟨entry, hentry, hb⟩ := Option.bind_eq_some_iff.1 hb
  obtain rfl := Option.some.inj hb
  have found (f : Nat) (hf : f ∈ entry.functions) : (s.function? f).isSome := by
    obtain ⟨fn, hfn, -⟩ := h.function?_of_mem_keys (h.listed.exist uid entry hentry f hf)
    rw [hfn]
    rfl
  have parts (f : Function) (hf : f ∈ entry.functions.filterMap s.function?) :
      ∃ uid, s.function? uid = some f := by
    obtain ⟨uid, -, hf⟩ := List.mem_filterMap.1 hf
    exact ⟨uid, hf⟩
  constructor
  case names_nodup =>
    rw [s.map_name_function? found]
    exact h.listed.names uid entry hentry
  case name_ne =>
    intro f hf
    obtain ⟨uid, hf⟩ := parts f hf
    exact (h.function hf).1
  case body =>
    intro f hf
    obtain ⟨uid, hf⟩ := parts f hf
    exact (h.function hf).2.1
  case opcode_ne =>
    intro f hf
    obtain ⟨uid, hf⟩ := parts f hf
    exact (h.function hf).2.2

end Store.WellFormed

/-- A function as some sequence of operations has left it. -/
def Function.Reachable (f : Function) : Prop :=
  ∃ nextUid ops uid, (Store.run { nextUid } ops).function? uid = some f

theorem Function.Reachable.body {f : Function} (h : f.Reachable) : f.body.WellFormed := by
  obtain ⟨nextUid, ops, uid, hf⟩ := h
  exact (((Store.wellFormed_empty nextUid).run ops).function hf).2.1

/-- A bundle as some sequence of operations has left it. -/
def Bundle.Reachable (b : Bundle) : Prop :=
  ∃ nextUid ops uid, (Store.run { nextUid } ops).bundle? uid = some b

theorem Bundle.Reachable.wellFormed {b : Bundle} (h : b.Reachable) : b.WellFormed := by
  obtain ⟨nextUid, ops, uid, hb⟩ := h
  exact ((Store.wellFormed_empty nextUid).run ops).bundle hb

/-! ## Bundles with rewired bodies -/

/-- The functions of a bundle can be told apart, and the blocks of each can be looked up. -/
structure Bundle.Indexed (b : Bundle) : Prop where
  names_nodup : (b.functions.map Function.name).Nodup
  body : ∀ f ∈ b.functions, f.body.Indexed

theorem Bundle.WellFormed.indexed {b : Bundle} (h : b.WellFormed) : b.Indexed where
  names_nodup := h.names_nodup
  body f hf := (h.body f hf).indexed

/-- A map before and after it has been written directly. -/
inductive Store.Rewires : Assoc Nat (List Nat) → Assoc Nat (List Nat) → Prop where
  | adjoin (m : Assoc Nat (List Nat)) (key uid : Nat) : Rewires m (adjoinAt m key uid)
  | remove (m : Assoc Nat (List Nat)) (key uid : Nat) : Rewires m (removeAt m key uid)

/-- Direct writing loses no set, though it may empty one. -/
theorem Store.Rewires.mem_keys {m m' : Assoc Nat (List Nat)} (h : Rewires m m') {k : Nat}
    (hk : k ∈ m.keys) : k ∈ m'.keys := by
  cases h with
  | adjoin key uid =>
    rw [adjoinAt, Assoc.mem_keys_insert]
    exact .inr hk
  | remove key uid => rwa [removeAt, Assoc.keys_modify]

/-- **However its maps are written, a body stays indexed.** -/
theorem Body.Indexed.rewire {b : Body} (h : b.Indexed) {succ : Assoc Nat (List Nat)}
    (rewired : Relation.ReflTransGen Store.Rewires b.succ succ) (pred : Assoc Nat (List Nat)) :
    Indexed { b with succ, pred } := by
  have kept {k : Nat} (hk : k ∈ b.succ.keys) : k ∈ succ.keys := by
    induction rewired with
    | refl => exact hk
    | tail _ step kept => exact step.mem_keys kept
  exact { h with succ_keys := fun uid hu ↦ kept (h.succ_keys uid hu) }

end Flowcheck.Ir
