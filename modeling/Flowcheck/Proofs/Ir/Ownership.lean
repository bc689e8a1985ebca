import Flowcheck.Proofs.Ir.Numbering

/-!
# Owners of bodies and functions of bundles under changes

A body gets its owner when a function is made and never again. The functions of a bundle keep their
names, so two of them never come to have the same.
-/

namespace Flowcheck.Ir

open Store

variable {s s' : Store} {c : Change}

/-! ## Owners -/

theorem Store.ownerOf_insert {body : Nat} {b : Body} (hs : s'.bodies = s.bodies.insert body b)
    (k : Nat) : s'.ownerOf k = if body = k then b.owner? else s.ownerOf k := by
  rw [ownerOf, ownerOf, hs, Assoc.get?_insert]
  split <;> rfl

/-- A body that is written with the owner that it had. -/
theorem Store.ownerOf_insert_same {body : Nat} {b : Body}
    (hs : s'.bodies = s.bodies.insert body b) (same : b.owner? = s.ownerOf body) (k : Nat) :
    s'.ownerOf k = s.ownerOf k := by
  rw [ownerOf, hs]
  exact Assoc.read_insert_same (fun b? ↦ b?.bind Body.owner?) same k

namespace Store.WellFormed

theorem ownerOf_uid (h : s.WellFormed) {body : Nat} {b : Body} (hb : s.bodies.get? body = some b) :
    s.ownerOf b.uid = b.owner? := by
  rw [h.uid_eq body b hb, ownerOf_eq hb]

theorem ownerOf_fresh (h : s.WellFormed) {uid : Nat} (hu : s.nextUid ≤ uid) :
    s.ownerOf uid = none := by
  rw [ownerOf, Assoc.get?_eq_none_iff.2 (h.numbered.unused hu).body]
  rfl

end Store.WellFormed

theorem Store.Owned.same (h : s.Owned) (owners : ∀ k, s'.ownerOf k = s.ownerOf k)
    (functions : s'.functions = s.functions) : s'.Owned := by
  constructor
  · simpa only [functions] using h.name_ne
  · simpa only [functions, owners] using h.body
  · simpa only [functions, owners] using h.owner

/-- A new function takes a body that had no owner. -/
theorem Store.Owned.newFunction (h : s.Owned) {uid body : Nat} {name : String} {b : Body}
    (hn : name ≠ "") (new : uid ∉ s.functions.keys) (free : s.ownerOf body = none)
    (bodies : s'.bodies = s.bodies.insert body b) (hb : b.owner? = some ⟨uid, name⟩)
    (functions : s'.functions = s.functions.insert uid { name, body }) : s'.Owned := by
  have owners (k : Nat) : s'.ownerOf k = if body = k then some ⟨uid, name⟩ else s.ownerOf k := by
    rw [ownerOf_insert bodies, hb]
  constructor
  · rw [functions]
    exact Assoc.forall_get?_insert hn h.name_ne
  · intro uid' f hf
    rw [functions, Assoc.get?_insert] at hf
    rw [owners]
    split at hf
    · rename_i hu
      rw [← Option.some.inj hf, if_pos rfl, hu]
    · have owner := h.body uid' f hf
      have ne : body ≠ f.body := by
        rintro rfl
        rw [free] at owner
        simp at owner
      rw [if_neg ne, owner]
  · intro k o ho
    rw [owners] at ho
    rw [functions, Assoc.get?_insert]
    split at ho
    · rename_i hk
      rw [← Option.some.inj ho, if_pos rfl]
      exact ⟨_, rfl, hk, rfl⟩
    · obtain ⟨f, hf, hfo⟩ := h.owner k o ho
      have ne : uid ≠ o.uid := by
        rintro rfl
        exact new (Assoc.mem_keys_of_get? hf)
      rw [if_neg ne]
      exact ⟨f, hf, hfo⟩

/-- Which bundle a function is in says nothing about its body. -/
theorem Store.Owned.addFunction (h : s.Owned) {function : Nat} {f : FunctionEntry}
    {bundle? : Option Nat} (hf : s.functions.get? function = some f)
    (owners : ∀ k, s'.ownerOf k = s.ownerOf k)
    (functions : s'.functions = s.functions.insert function { f with bundle? }) : s'.Owned := by
  constructor
  · rw [functions]
    exact Assoc.forall_get?_insert (h.name_ne function f hf) h.name_ne
  · simp only [functions, owners]
    exact Assoc.forall_get?_insert (h.body function f hf) h.body
  · intro k o ho
    rw [owners] at ho
    obtain ⟨f', hf', hfo⟩ := h.owner k o ho
    rw [functions, Assoc.get?_insert]
    split
    · rename_i hu
      rw [hu, hf'] at hf
      obtain rfl := Option.some.inj hf
      exact ⟨_, rfl, hfo⟩
    · exact ⟨f', hf', hfo⟩

theorem Step.owned (h : s.WellFormed) (step : Step s c s') : s'.Owned := by
  have ho := h.owned
  have new := h.numbered.unused_next.function
  cases step with
  | spend => exact ho.same (fun _ ↦ rfl) rfl
  | newBundle _ => exact ho.same (fun _ ↦ rfl) rfl
  | newBody =>
    exact ho.same (ownerOf_insert_same rfl (h.ownerOf_fresh (Nat.le_refl _)).symm) rfl
  | newBlock _ _ => exact ho.same (fun _ ↦ rfl) rfl
  | newFunction hn hb free =>
    rw [h.uid_eq _ _ hb]
    exact ho.newFunction hn new ((ownerOf_eq hb).trans free) rfl rfl rfl
  | newFunctionAndBody hn =>
    exact ho.newFunction hn new (h.ownerOf_fresh (Nat.le_succ _)) rfl rfl rfl
  | newStatement _ _ => exact ho.same (fun _ ↦ rfl) rfl
  | addFunction _ hf _ _ => exact ho.addFunction hf (fun _ ↦ rfl) rfl
  | addBlock hb _ _ _ => exact ho.same (ownerOf_insert_same rfl (h.ownerOf_uid hb).symm) rfl
  | addStatement _ hb _ _ _ => exact ho.same (ownerOf_insert_same rfl (h.ownerOf_uid hb).symm) rfl
  | edit hb he =>
    refine ho.same (ownerOf_insert_same rfl ?_) rfl
    rw [he.owner?_eq, he.uid_eq, h.ownerOf_uid hb]
  | freezeBundle _ => exact ho.same (fun _ ↦ rfl) rfl
  | handOut _ => exact ho.same (fun _ ↦ rfl) rfl

/-! ## Bundles -/

theorem Store.isSome_functionName?_iff {uid : Nat} :
    (s.functionName? uid).isSome ↔ uid ∈ s.functions.keys := by
  rw [functionName?, Option.isSome_map, ← Assoc.contains_iff, Assoc.contains]

/-- A change that writes no bundle and renames no function. -/
theorem Store.Listed.same (h : s.Listed)
    (names : ∀ uid ∈ s.functions.keys, s'.functionName? uid = s.functionName? uid)
    (bundles : s'.bundles = s.bundles) : s'.Listed := by
  constructor
  · intro uid b hb f hf
    rw [bundles] at hb
    have key := h.exist uid b hb f hf
    rw [← isSome_functionName?_iff, names f key]
    exact isSome_functionName?_iff.2 key
  · intro uid b hb
    rw [bundles] at hb
    have renamed : s'.functionNames b.functions = s.functionNames b.functions :=
      List.filterMap_congr fun f hf ↦ names f (h.exist uid b hb f hf)
    rw [renamed]
    exact h.names uid b hb

/-- A bundle that is written while no function is renamed. -/
theorem Store.Listed.insert (h : s.Listed) {bundle : Nat} {b : BundleEntry}
    (names : ∀ uid ∈ s.functions.keys, s'.functionName? uid = s.functionName? uid)
    (bundles : s'.bundles = s.bundles.insert bundle b)
    (exist : ∀ f ∈ b.functions, f ∈ s.functions.keys)
    (nodup : (s.functionNames b.functions).Nodup) : s'.Listed := by
  have renamed {fs : List Nat} (hfs : ∀ f ∈ fs, f ∈ s.functions.keys) :
      s'.functionNames fs = s.functionNames fs :=
    List.filterMap_congr fun f hf ↦ names f (hfs f hf)
  constructor
  · have keys {f : Nat} (hf : f ∈ s.functions.keys) : f ∈ s'.functions.keys := by
      rw [← isSome_functionName?_iff, names f hf]
      exact isSome_functionName?_iff.2 hf
    rw [bundles]
    refine Assoc.forall_get?_insert (fun f hf ↦ keys (exist f hf)) fun uid b hb f hf ↦ ?_
    exact keys (h.exist uid b hb f hf)
  · rw [bundles]
    refine Assoc.forall_get?_insert ?_ fun uid b hb ↦ ?_
    · rwa [renamed exist]
    · rw [renamed (h.exist uid b hb)]
      exact h.names uid b hb

theorem Step.listed (h : s.WellFormed) (step : Step s c s') : s'.Listed := by
  have hl := h.listed
  have new (f : FunctionEntry) (uid : Nat) (hu : uid ∈ s.functions.keys) :
      ((s.functions.insert s.nextUid f).get? uid).map FunctionEntry.name = s.functionName? uid := by
    have ne : s.nextUid ≠ uid := by
      rintro rfl
      exact h.numbered.unused_next.function hu
    rw [Assoc.get?_insert, if_neg ne, functionName?]
  cases step with
  | spend => exact hl.same (fun _ _ ↦ rfl) rfl
  | newBundle _ => exact hl.insert (fun _ _ ↦ rfl) rfl (by simp) .nil
  | newBody => exact hl.same (fun _ _ ↦ rfl) rfl
  | newBlock _ _ => exact hl.same (fun _ _ ↦ rfl) rfl
  | newFunction _ _ _ => exact hl.same (new _) rfl
  | newFunctionAndBody _ => exact hl.same (new _) rfl
  | newStatement _ _ => exact hl.same (fun _ _ ↦ rfl) rfl
  | @addFunction bundle function b f hb hf _ taken =>
    have name : s.functionName? function = some f.name := by
      rw [functionName?, hf]
      rfl
    refine hl.insert (fun uid _ ↦ ?_) rfl ?_ ?_
    · rw [functionName?, functionName?, Assoc.get?_insert]
      split
      · rename_i hu
        rw [← hu, hf]
        rfl
      · rfl
    · intro f' hf'
      rcases List.mem_append.1 hf' with hf' | hf'
      · exact hl.exist bundle b hb f' hf'
      · rw [List.mem_singleton.1 hf']
        exact Assoc.mem_keys_of_get? hf
    · rw [functionNames, List.filterMap_append, List.filterMap_cons_some name, List.filterMap_nil,
        ← List.concat_eq_append]
      exact List.Nodup.concat taken (hl.names bundle b hb)
  | addBlock _ _ _ _ => exact hl.same (fun _ _ ↦ rfl) rfl
  | addStatement _ _ _ _ _ => exact hl.same (fun _ _ ↦ rfl) rfl
  | edit _ _ => exact hl.same (fun _ _ ↦ rfl) rfl
  | freezeBundle hb =>
    have exist := hl.exist _ _ hb
    have names := hl.names _ _ hb
    exact hl.insert (fun _ _ ↦ rfl) rfl exist names
  | handOut hb =>
    have exist := hl.exist _ _ hb
    have names := hl.names _ _ hb
    exact hl.insert (fun _ _ ↦ rfl) rfl exist names

end Flowcheck.Ir
