import Flowcheck.Proofs.Ir.Invariant

/-!
# What later stores keep

Nodes are never taken out of a store, so a later store can be compared with an earlier one node by
node. What is frozen is only ever compared with itself: once a body is frozen no change writes
anything but its owner, and once a bundle is frozen nothing but the mark that it was handed out.
This relation is a preorder that every change respects, so it holds along every run.

That a frozen body may still be given an owner is no oversight. A function can be made for any body
that has none, and whether the body is frozen is not looked at.
-/

namespace Flowcheck

/-! ## Tables that carry their entries on -/

namespace Assoc

variable {κ ν : Type} [DecidableEq κ] {R : ν → ν → Prop} {m m' m'' : Assoc κ ν}

/-- Every entry is still there, with a value that its old one is related to. -/
def Carries (R : ν → ν → Prop) (m m' : Assoc κ ν) : Prop :=
  ∀ k v, m.get? k = some v → ∃ v', m'.get? k = some v' ∧ R v v'

namespace Carries

theorem refl (hR : ∀ v, R v v) (m : Assoc κ ν) : Carries R m m := fun _ v hv ↦ ⟨v, hv, hR v⟩

theorem trans (hR : ∀ {u v w}, R u v → R v w → R u w) (h : Carries R m m')
    (h' : Carries R m' m'') : Carries R m m'' := by
  intro k u hu
  obtain ⟨v, hv, huv⟩ := h k u hu
  obtain ⟨w, hw, hvw⟩ := h' k v hv
  exact ⟨w, hw, hR huv hvw⟩

/-- A value may be written over if it is related to the new one. -/
theorem insert (hR : ∀ v, R v v) {k : κ} {w : ν} (h : ∀ v, m.get? k = some v → R v w) :
    Carries R m (m.insert k w) := by
  intro k' v hv
  by_cases hk : k = k'
  · subst hk
    exact ⟨w, by rw [get?_insert, if_pos rfl], h v hv⟩
  · exact ⟨v, by rw [get?_insert, if_neg hk, hv], hR v⟩

theorem insert_new (hR : ∀ v, R v v) {k : κ} (new : k ∉ m.keys) (w : ν) :
    Carries R m (m.insert k w) := by
  refine insert hR fun v hv ↦ ?_
  exact absurd (mem_keys_of_get? hv) new

theorem insert_old (hR : ∀ v, R v v) {k : κ} {v w : ν} (old : m.get? k = some v) (h : R v w) :
    Carries R m (m.insert k w) := by
  refine insert hR fun v' hv' ↦ ?_
  rw [old] at hv'
  exact Option.some.inj hv' ▸ h

end Carries

end Assoc

namespace Ir

open Store
open Assoc (Carries)

/-! ## Nodes -/

/-- A body and the same body after changes. -/
structure Body.Keeps (b b' : Body) : Prop where
  owner : ∀ o, b.owner? = some o → b'.owner? = some o
  frozen : b.frozen = true → ∃ owner?, b' = { b with owner? }

namespace Body.Keeps

variable {b b' b'' : Body}

theorem refl (b : Body) : b.Keeps b := ⟨fun _ ho ↦ ho, fun _ ↦ ⟨b.owner?, rfl⟩⟩

theorem trans (h : b.Keeps b') (h' : b'.Keeps b'') : b.Keeps b'' := by
  refine ⟨fun o ho ↦ h'.owner o (h.owner o ho), fun hf ↦ ?_⟩
  obtain ⟨_, rfl⟩ := h.frozen hf
  obtain ⟨owner?, rfl⟩ := h'.frozen hf
  exact ⟨owner?, rfl⟩

/-- A body that is not frozen may change in all but its owner. -/
theorem of_mutable (mutable : b.frozen = false) (owner : b'.owner? = b.owner?) : b.Keeps b' := by
  refine ⟨fun o ho ↦ owner.trans ho, fun hf ↦ ?_⟩
  rw [mutable] at hf
  exact absurd hf (by simp)

/-- A body that has no owner may get one, frozen or not. -/
theorem of_free (free : b.owner? = none) (o : Owner) : b.Keeps { b with owner? := some o } := by
  refine ⟨fun o' ho ↦ ?_, fun _ ↦ ⟨some o, rfl⟩⟩
  rw [free] at ho
  exact absurd ho (by simp)

theorem of_edits {e : Edit} (h : b.Edits e b') : b.Keeps b' := by
  cases h with
  | edge mutable _ _ => exact of_mutable mutable rfl
  | entry mutable _ => exact of_mutable mutable rfl
  | exit mutable _ => exact of_mutable mutable rfl
  | freeze =>
    refine ⟨fun _ ho ↦ ho, fun hf ↦ ⟨b.owner?, ?_⟩⟩
    rw [freeze, ← hf]

end Body.Keeps

/-- A function and the same function after changes: it may have come into another bundle. -/
def FunctionEntry.Keeps (f f' : FunctionEntry) : Prop := ∃ bundle?, f' = { f with bundle? }

namespace FunctionEntry.Keeps

variable {f f' f'' : FunctionEntry}

theorem refl (f : FunctionEntry) : f.Keeps f := ⟨f.bundle?, rfl⟩

theorem trans (h : f.Keeps f') (h' : f'.Keeps f'') : f.Keeps f'' := by
  obtain ⟨_, rfl⟩ := h
  obtain ⟨bundle?, rfl⟩ := h'
  exact ⟨bundle?, rfl⟩

end FunctionEntry.Keeps

/-- A bundle and the same bundle after changes. -/
structure BundleEntry.Keeps (e e' : BundleEntry) : Prop where
  functions : e.functions <+: e'.functions
  built : e.built = true → e'.built = true
  frozen : e.frozen = true → ∃ built, e' = { e with built }

namespace BundleEntry.Keeps

variable {e e' e'' : BundleEntry}

theorem refl (e : BundleEntry) : e.Keeps e := ⟨List.prefix_refl _, fun hb ↦ hb, fun _ ↦ ⟨e.built, rfl⟩⟩

theorem trans (h : e.Keeps e') (h' : e'.Keeps e'') : e.Keeps e'' := by
  refine ⟨h.functions.trans h'.functions, fun hb ↦ h'.built (h.built hb), fun hf ↦ ?_⟩
  obtain ⟨_, rfl⟩ := h.frozen hf
  obtain ⟨built, rfl⟩ := h'.frozen hf
  exact ⟨built, rfl⟩

end BundleEntry.Keeps

/-! ## Stores -/

/-- A store and the same store later on. -/
structure Store.Extends (s s' : Store) : Prop where
  bodies : Carries Body.Keeps s.bodies s'.bodies
  functions : Carries FunctionEntry.Keeps s.functions s'.functions
  bundles : Carries BundleEntry.Keeps s.bundles s'.bundles

variable {s s' s'' : Store} {c : Change}

namespace Store.Extends

theorem refl (s : Store) : s.Extends s where
  bodies := .refl Body.Keeps.refl _
  functions := .refl FunctionEntry.Keeps.refl _
  bundles := .refl BundleEntry.Keeps.refl _

theorem trans (h : s.Extends s') (h' : s'.Extends s'') : s.Extends s'' where
  bodies := h.bodies.trans Body.Keeps.trans h'.bodies
  functions := h.functions.trans FunctionEntry.Keeps.trans h'.functions
  bundles := h.bundles.trans BundleEntry.Keeps.trans h'.bundles

end Store.Extends

/-- **Every change extends the store.** -/
theorem Step.extends (h : s.WellFormed) (step : Step s c s') : s.Extends s' := by
  obtain ⟨newBundle, newFunction, newBody, _, _⟩ := h.numbered.unused_next
  have newBody' : s.nextUid + 1 ∉ s.bodies.keys := (h.numbered.unused (Nat.le_succ _)).body
  have own {uid : Nat} {b : Body} (hb : s.bodies.get? uid = some b) :
      s.bodies.get? b.uid = some b := by
    rwa [h.uid_eq uid b hb]
  obtain ⟨bodies, functions, bundles⟩ := Store.Extends.refl s
  cases step with
  | spend => exact ⟨bodies, functions, bundles⟩
  | newBundle _ =>
    exact ⟨bodies, functions, .insert_new BundleEntry.Keeps.refl newBundle _⟩
  | newBody => exact ⟨.insert_new Body.Keeps.refl newBody _, functions, bundles⟩
  | newBlock _ _ => exact ⟨bodies, functions, bundles⟩
  | newFunction _ hb free =>
    exact ⟨.insert_old Body.Keeps.refl (own hb) (.of_free free _),
      .insert_new FunctionEntry.Keeps.refl newFunction _, bundles⟩
  | newFunctionAndBody _ =>
    exact ⟨.insert_new Body.Keeps.refl newBody' _,
      .insert_new FunctionEntry.Keeps.refl newFunction _, bundles⟩
  | newStatement _ _ => exact ⟨bodies, functions, bundles⟩
  | @addFunction bundle function e f he hf mutable _ =>
    have keeps : e.Keeps { e with functions := e.functions ++ [function] } :=
      ⟨List.prefix_append _ _, fun hb ↦ hb, fun hf ↦ absurd (mutable.symm.trans hf) (by simp)⟩
    exact ⟨bodies, .insert_old FunctionEntry.Keeps.refl hf ⟨_, rfl⟩,
      .insert_old BundleEntry.Keeps.refl he keeps⟩
  | addBlock hb mutable _ _ =>
    exact ⟨.insert_old Body.Keeps.refl (own hb) (.of_mutable mutable rfl), functions, bundles⟩
  | addStatement _ hb _ mutable _ =>
    exact ⟨.insert_old Body.Keeps.refl (own hb) (.of_mutable mutable rfl), functions, bundles⟩
  | edit hb he =>
    rw [he.uid_eq]
    exact ⟨.insert_old Body.Keeps.refl (own hb) (.of_edits he), functions, bundles⟩
  | @freezeBundle bundle e he =>
    have keeps : e.Keeps { e with frozen := true } :=
      ⟨List.prefix_refl _, fun hb ↦ hb, fun hf ↦ ⟨e.built, by rw [← hf]⟩⟩
    exact ⟨bodies, functions, .insert_old BundleEntry.Keeps.refl he keeps⟩
  | @handOut bundle e he =>
    have keeps : e.Keeps { e with built := true } :=
      ⟨List.prefix_refl _, fun _ ↦ rfl, fun _ ↦ ⟨true, rfl⟩⟩
    exact ⟨bodies, functions, .insert_old BundleEntry.Keeps.refl he keeps⟩

/-- **Every run extends the store.** -/
theorem Store.WellFormed.extends_run (h : s.WellFormed) (ops : List Operation) :
    s.Extends (s.run ops) := by
  obtain ⟨cs, trace⟩ := trace_run ops s
  refine trace.keeps_of_wellFormed (P := s.Extends) (p := fun _ ↦ True) ?_ (by simp) h (.refl s)
  intro t t' c _ ht ext step
  exact ext.trans (step.extends ht)

end Ir

end Flowcheck
