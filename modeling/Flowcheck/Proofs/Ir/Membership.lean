import Flowcheck.Proofs.Ir.Extension

/-!
# Which bundle a function is in

A bundle lists its functions, and a function points back to a bundle. Only one change writes either
side, and it writes both: when a function is added to a bundle the bundle lists it and the function
points to that bundle. What the change does not look at is whether the function is in a bundle
already. A statement that is in a block and a body that has an owner are turned away; a function
that is added a second time leaves its first bundle listing it while it points to the second one,
and there is no way back from there.

So the two sides agree exactly as long as no function is added to a second bundle.
-/

namespace Flowcheck.Ir

open Store

variable {s s' : Store} {c : Change}

namespace Store

/-! ## The two sides -/

/-- The functions that the bundle with a number lists. -/
def members (s : Store) (bundle : Nat) : List Nat :=
  ((s.bundles.get? bundle).map BundleEntry.functions).getD []

/-- The bundle that the function with a number points to. -/
def bundleOf? (s : Store) (function : Nat) : Option Nat :=
  (s.functions.get? function).bind FunctionEntry.bundle?

/-- A function is listed by the bundle that it points to, and by no other bundle. -/
def SingleOwner (s : Store) : Prop :=
  ∀ bundle function, function ∈ s.members bundle ↔ s.bundleOf? function = some bundle

theorem members_eq {bundle : Nat} {e : BundleEntry} (he : s.bundles.get? bundle = some e) :
    s.members bundle = e.functions := by
  rw [members, he]
  rfl

theorem members_insert {bundle : Nat} {e : BundleEntry}
    (hs : s'.bundles = s.bundles.insert bundle e) (k : Nat) :
    s'.members k = if bundle = k then e.functions else s.members k := by
  rw [members, members, hs, Assoc.get?_insert]
  split <;> rfl

theorem bundleOf?_insert {function : Nat} {f : FunctionEntry}
    (hs : s'.functions = s.functions.insert function f) (k : Nat) :
    s'.bundleOf? k = if function = k then f.bundle? else s.bundleOf? k := by
  rw [bundleOf?, bundleOf?, hs, Assoc.get?_insert]
  split <;> rfl

/-- A bundle that is written with the functions that it had. -/
theorem members_insert_same {bundle : Nat} {e : BundleEntry}
    (hs : s'.bundles = s.bundles.insert bundle e) (same : e.functions = s.members bundle) (k : Nat) :
    s'.members k = s.members k := by
  rw [members, hs]
  exact Assoc.read_insert_same (fun e? ↦ (e?.map BundleEntry.functions).getD []) same k

/-- A function that is written without a bundle, as it was before. -/
theorem bundleOf?_insert_new {function : Nat} {f : FunctionEntry}
    (hs : s'.functions = s.functions.insert function f) (free : f.bundle? = none)
    (new : function ∉ s.functions.keys) (k : Nat) : s'.bundleOf? k = s.bundleOf? k := by
  have same : f.bundle? = s.bundleOf? function := by
    rw [free, bundleOf?, Assoc.get?_eq_none_iff.2 new]
    rfl
  rw [bundleOf?, hs]
  exact Assoc.read_insert_same (fun f? ↦ f?.bind FunctionEntry.bundle?) same k

/-! ## Changes -/

/-- Bundles and functions point to each other as before. -/
structure SameMembers (s s' : Store) : Prop where
  members : ∀ bundle, s'.members bundle = s.members bundle
  bundleOf? : ∀ function, s'.bundleOf? function = s.bundleOf? function

theorem SameMembers.refl (s : Store) : s.SameMembers s := ⟨fun _ ↦ rfl, fun _ ↦ rfl⟩

theorem SameMembers.trans {s'' : Store} (h : s.SameMembers s') (h' : s'.SameMembers s'') :
    s.SameMembers s'' :=
  ⟨fun k ↦ (h'.members k).trans (h.members k), fun k ↦ (h'.bundleOf? k).trans (h.bundleOf? k)⟩

theorem SameMembers.singleOwner (h : s.SameMembers s') (single : s.SingleOwner) :
    s'.SingleOwner := by
  intro bundle function
  rw [h.members, h.bundleOf?]
  exact single bundle function

end Store

/-- Every change but one leaves the two sides as they are. -/
theorem Step.sameMembers (h : s.WellFormed) (step : Step s c s') (hc : c.addsFunction = false) :
    s.SameMembers s' := by
  obtain ⟨newBundle, newFunction, _, _, _⟩ := h.numbered.unused_next
  have unlisted : [] = s.members s.nextUid := by
    rw [members, Assoc.get?_eq_none_iff.2 newBundle]
    rfl
  cases step with
  | newBundle _ => exact ⟨members_insert_same rfl unlisted, fun _ ↦ rfl⟩
  | newFunction _ _ _ => exact ⟨fun _ ↦ rfl, bundleOf?_insert_new rfl rfl newFunction⟩
  | newFunctionAndBody _ => exact ⟨fun _ ↦ rfl, bundleOf?_insert_new rfl rfl newFunction⟩
  | addFunction _ _ _ _ => exact absurd hc (by simp [Change.addsFunction])
  | freezeBundle he => exact ⟨members_insert_same rfl (members_eq he).symm, fun _ ↦ rfl⟩
  | handOut he => exact ⟨members_insert_same rfl (members_eq he).symm, fun _ ↦ rfl⟩
  | spend | newBody | newBlock | newStatement | addBlock | addStatement | edit =>
    exact ⟨fun _ ↦ rfl, fun _ ↦ rfl⟩

/-- The one change that writes the two sides. -/
theorem Step.members_addFunction {bundle function : Nat}
    (step : Step s (.addFunction bundle function) s') :
    (∀ k, s'.members k = if bundle = k then s.members bundle ++ [function] else s.members k) ∧
      ∀ k, s'.bundleOf? k = if function = k then some bundle else s.bundleOf? k := by
  cases step with
  | @addFunction _ _ e f he _ _ _ =>
    constructor
    · intro k
      rw [members_eq he]
      exact members_insert (e := { e with functions := e.functions ++ [function] }) rfl k
    · intro k
      exact bundleOf?_insert (f := { f with bundle? := some bundle }) rfl k

/-- A function that is in no bundle yet may be added to any. -/
theorem Step.singleOwner_of_free {bundle function : Nat} (single : s.SingleOwner)
    (step : Step s (.addFunction bundle function) s') (free : s.bundleOf? function = none) :
    s'.SingleOwner := by
  obtain ⟨members, bundleOf?⟩ := step.members_addFunction
  have unlisted (k : Nat) : function ∉ s.members k := by
    rw [single, free]
    simp
  intro k f
  rw [members, bundleOf?]
  -- The sides change in one place each: what the bundle lists and what the function points to.
  by_cases hf : function = f
  · subst hf
    by_cases hk : bundle = k
    · simp [hk]
    · simp [hk, unlisted k]
  · by_cases hk : bundle = k
    · subst hk
      simp [hf, Ne.symm hf, single bundle f]
    · simp [hk, hf, single k f]

/-! ## A function in two bundles -/

/-- Two bundles list the same function. -/
def Store.TwiceListed (s : Store) : Prop :=
  ∃ function bundle bundle', bundle ≠ bundle' ∧ function ∈ s.members bundle ∧
    function ∈ s.members bundle'

theorem Store.TwiceListed.not_singleOwner (h : s.TwiceListed) : ¬ s.SingleOwner := by
  obtain ⟨function, bundle, bundle', ne, listed, listed'⟩ := h
  intro single
  have same : some bundle = some bundle' :=
    ((single bundle function).1 listed).symm.trans ((single bundle' function).1 listed')
  exact ne (Option.some.inj same)

theorem Store.Extends.members (ext : s.Extends s') {bundle function : Nat}
    (listed : function ∈ s.members bundle) : function ∈ s'.members bundle := by
  cases he : s.bundles.get? bundle with
  | none => simp [Store.members, he] at listed
  | some e =>
    obtain ⟨e', he', keeps⟩ := ext.bundles bundle e he
    rw [members_eq he] at listed
    rw [members_eq he']
    exact keeps.functions.subset listed

/-- No bundle ever lets go of a function. -/
theorem Store.Extends.twiceListed (ext : s.Extends s') (h : s.TwiceListed) : s'.TwiceListed := by
  obtain ⟨function, bundle, bundle', ne, listed, listed'⟩ := h
  exact ⟨function, bundle, bundle', ne, ext.members listed, ext.members listed'⟩

/-- A function that is in a bundle already comes to be in two. Its first bundle cannot be the one
that it is added to, since that one would find the name taken. -/
theorem Step.twiceListed_of_owned {bundle function owner : Nat} (single : s.SingleOwner)
    (step : Step s (.addFunction bundle function) s')
    (owned : s.bundleOf? function = some owner) : s'.TwiceListed := by
  have listed : function ∈ s.members owner := (single owner function).2 owned
  have ne : bundle ≠ owner := by
    cases step with
    | @addFunction _ _ e f he hf _ new =>
      rintro rfl
      rw [members_eq he] at listed
      have name : s.functionName? function = some f.name := by
        rw [functionName?, hf]
        rfl
      exact new (List.mem_filterMap.2 ⟨function, listed, name⟩)
  obtain ⟨members, _⟩ := step.members_addFunction
  refine ⟨function, bundle, owner, ne, ?_, ?_⟩
  · simp [members]
  · simpa [members, ne] using listed

/-! ## Operations -/

/-- The function that an operation puts into a bundle, unless it is a new one. -/
def Operation.added? : Operation → Option Nat
  | .addFunction _ function => some function
  | _ => none

theorem Operation.added?_eq_some_iff {op : Operation} {function : Nat} :
    op.added? = some function ↔ ∃ bundle, op = .addFunction bundle function := by
  cases op <;> simp [added?]

namespace Store

variable {α β : Type}

/-- A refused operation leaves the two sides as they are. -/
theorem Ends.step_or_same {m : StoreM α} {a : α} (h : Ends s m a c) :
    (s.answer m = .ok a ∧ Step s c (s.after m)) ∨
      (∃ e, s.answer m = .error e) ∧ s.SameMembers (s.after m) := by
  rcases h with done | ⟨e, refused, same | spent⟩
  · exact .inl done
  · exact .inr ⟨⟨e, refused⟩, same.symm ▸ .refl s⟩
  · refine .inr ⟨⟨e, refused⟩, ?_⟩
    rw [spent]
    exact ⟨fun _ ↦ rfl, fun _ ↦ rfl⟩

theorem WellFormed.sameMembers_perform (h : s.WellFormed) {op : Operation}
    (hop : op.addsFunction = false) : s.SameMembers (s.after op.perform) := by
  refine h.perform_keeps (P := s.SameMembers) (.refl s) fun permitted ht same step ↦ ?_
  exact same.trans (step.sameMembers ht (by simpa [hop] using permitted.2))

/-- A builder adds functions that it has just made. -/
theorem SingleOwner.function (single : s.SingleOwner) (h : s.WellFormed) (bundle : Nat)
    (name : String) : (s.after (BundleBuilder.function bundle name)).SingleOwner := by
  refine after_demand single fun e he ↦ after_guard single fun _ ↦ ?_
  rcases (ends_newFunctionAndBody name (s := s)).step_or_same with
    ⟨made, step⟩ | ⟨⟨_, refused⟩, same⟩
  · have same := step.sameMembers h rfl
    -- Making a function leaves the two sides alone, and before it nothing had its number.
    have free : (s.after (newFunction name none)).bundleOf? s.nextUid = none := by
      rw [same.bundleOf?, bundleOf?, Assoc.get?_eq_none_iff.2 h.numbered.unused_next.function]
      rfl
    rw [after_bind_of_ok made]
    rcases (ends_addFunction bundle s.nextUid).step_or_same with
      ⟨added, step'⟩ | ⟨⟨_, refused⟩, same'⟩
    · rw [after_bind_of_ok added]
      exact step'.singleOwner_of_free (same.singleOwner single) free
    · rw [after_bind_of_error refused]
      exact same'.singleOwner (same.singleOwner single)
  · rw [after_bind_of_error refused]
    exact same.singleOwner single

/-- An operation does not succeed in adding a function that is in a bundle already. -/
def AddsFree (s : Store) (op : Operation) : Prop :=
  ∀ function ∈ op.added?, s.answer op.perform = .ok () → s.bundleOf? function = none

instance (s : Store) (op : Operation) : Decidable (s.AddsFree op) :=
  inferInstanceAs (Decidable (∀ function ∈ op.added?, _))

theorem SingleOwner.perform (single : s.SingleOwner) (h : s.WellFormed) {op : Operation}
    (free : s.AddsFree op) : (s.after op.perform).SingleOwner := by
  by_cases hop : op.addsFunction = true
  · cases op with
    | addFunction bundle function =>
      rcases (ends_addFunction bundle function).step_or_same with ⟨added, step⟩ | ⟨_, same⟩
      · exact step.singleOwner_of_free single (free function rfl added)
      · exact same.singleOwner single
    | buildFunction bundle name =>
      rw [Operation.perform, after_discard]
      exact single.function h bundle name
    | _ => exact absurd hop (by simp [Operation.addsFunction])
  · exact (h.sameMembers_perform (by simpa using hop)).singleOwner single

theorem SingleOwner.twiceListed_perform (single : s.SingleOwner) {op : Operation}
    (owned : ¬ s.AddsFree op) : (s.after op.perform).TwiceListed := by
  simp only [AddsFree, not_forall] at owned
  obtain ⟨function, hop, added, owned⟩ := owned
  obtain ⟨bundle, rfl⟩ := Operation.added?_eq_some_iff.1 hop
  obtain ⟨owner, owned⟩ := Option.ne_none_iff_exists'.1 owned
  rcases (ends_addFunction bundle function).step_or_same with ⟨_, step⟩ | ⟨⟨e, refused⟩, _⟩
  · exact step.twiceListed_of_owned single owned
  · rw [Operation.perform, refused] at added
    cases added

end Store

/-! ## Runs -/

namespace Store

/-- No operation of a sequence succeeds in adding a function that is in a bundle already. The
operations of builders never do, since they add new functions only. -/
def AddsOnce (s : Store) : List Operation → Prop
  | [] => True
  | op :: ops => s.AddsFree op ∧ (s.after op.perform).AddsOnce ops

instance decidableAddsOnce : (s : Store) → (ops : List Operation) → Decidable (s.AddsOnce ops)
  | _, [] => .isTrue trivial
  | s, op :: ops =>
    have := decidableAddsOnce (s.after op.perform) ops
    inferInstanceAs (Decidable (_ ∧ _))

/-- **The two sides agree after a run exactly if no function was added to a second bundle.** -/
theorem SingleOwner.run_iff (single : s.SingleOwner) (h : s.WellFormed) (ops : List Operation) :
    (s.run ops).SingleOwner ↔ s.AddsOnce ops := by
  induction ops generalizing s with
  | nil => exact iff_of_true single trivial
  | cons op ops ih =>
    have h' : (s.after op.perform).WellFormed := h.run [op]
    by_cases free : s.AddsFree op
    · rw [AddsOnce, and_iff_right free]
      exact ih (single.perform h free) h'
    · -- Once two bundles list a function they always will, so the rest of the run does not matter.
      have twice := (h'.extends_run ops).twiceListed (single.twiceListed_perform free)
      exact iff_of_false twice.not_singleOwner fun once ↦ free once.1

theorem singleOwner_empty (nextUid : Nat) : SingleOwner { nextUid } := by
  intro bundle function
  simp [members, bundleOf?]

/-! ## Owners of all kinds -/

/-- Who owns what once `ops` have been performed, and once `later` have been performed after
them. -/
structure Ownership (nextUid : Nat) (ops later : List Operation) : Prop where
  single_iff : (run { nextUid } ops).SingleOwner ↔ AddsOnce { nextUid } ops
  /-- As long as functions are added once, no function is in two bundles. -/
  once : AddsOnce { nextUid } ops → ∀ function bundle bundle',
    function ∈ (run { nextUid } ops).members bundle →
    function ∈ (run { nextUid } ops).members bundle' → bundle = bundle'
  /-- As long as functions are added once, they stay with their bundle, frozen or not. -/
  kept : AddsOnce { nextUid } (ops ++ later) → ∀ bundle,
    ∀ function ∈ (run { nextUid } ops).members bundle,
      (run { nextUid } (ops ++ later)).bundleOf? function = some bundle
  /-- No statement is in two blocks, however the functions were added. -/
  statement : ∀ block bb st block' bb' st', (run { nextUid } ops).block? block = some bb →
    st ∈ bb.statements → (run { nextUid } ops).block? block' = some bb' → st' ∈ bb'.statements →
    st.uid = st'.uid → block = block'
  /-- No body belongs to two functions. -/
  body : ∀ function f function' f', (run { nextUid } ops).functions.get? function = some f →
    (run { nextUid } ops).functions.get? function' = some f' → f.body = f'.body →
    function = function'

theorem WellFormed.block_of_statement (h : s.WellFormed) {block : Nat} {bb : Block}
    {st : Statement} (hbb : s.block? block = some bb) (hst : st ∈ bb.statements) :
    s.statements.get? st.uid = some ⟨st, some block⟩ := by
  obtain ⟨held, rfl⟩ := h.block?_eq_some_iff.1 hbb
  exact h.placed.listed bb held st hst

/-- **Who owns what, whatever was done**, and which part of it depends on what was done. -/
theorem ownership_run (nextUid : Nat) (ops later : List Operation) :
    Ownership nextUid ops later := by
  have h := (wellFormed_empty nextUid).run ops
  have single_iff (ops : List Operation) :
      (run { nextUid } ops).SingleOwner ↔ AddsOnce { nextUid } ops :=
    (singleOwner_empty nextUid).run_iff (wellFormed_empty nextUid) ops
  constructor
  · exact single_iff ops
  · intro once function bundle bundle' listed listed'
    have single := (single_iff ops).2 once
    rw [single] at listed listed'
    exact Option.some.inj (listed.symm.trans listed')
  · intro once bundle function listed
    have single := (single_iff (ops ++ later)).2 once
    rw [← single, run_append]
    exact (h.extends_run later).members listed
  · intro block bb st block' bb' st' hbb hst hbb' hst' same
    have placed := h.block_of_statement hbb hst
    rw [same, h.block_of_statement hbb' hst'] at placed
    have blocks := congrArg StatementEntry.block? (Option.some.inj placed)
    exact (Option.some.inj blocks).symm
  · intro function f function' f' hf hf' same
    have owner := h.owned.body function f hf
    rw [same, h.owned.body function' f' hf'] at owner
    exact (congrArg Owner.uid (Option.some.inj owner)).symm

/-- A function that is refused by a second bundle, where its name is taken, stays in the first. -/
theorem ownership_run_refused :
    let ops : List Operation :=
      [.newBundle "a", .newFunction "f" none, .addFunction 1 2, .freezeBundle 1]
    let later : List Operation := [.startBundle "b", .buildFunction 4 "f", .addFunction 4 2]
    AddsOnce {} (ops ++ later) ∧ 2 ∈ (run {} ops).members 1 ∧
      (run {} (ops ++ later)).bundleOf? 2 = some 1 := by
  intro ops later
  have once : AddsOnce {} (ops ++ later) := by decide
  have listed : 2 ∈ (run {} ops).members 1 := by decide
  exact ⟨once, listed, (ownership_run 1 ops later).kept once 1 2 listed⟩

/-- A function of a frozen bundle that is added to a second one: both bundles list it, and it points
to the second. -/
theorem addFunction_takes_over :
    let s := run {} [.newBundle "a", .newBundle "b", .newFunction "f" none, .addFunction 1 3,
      .freezeBundle 1]
    let s' := s.run [.addFunction 2 3]
    (s.bundles.get? 1).map BundleEntry.frozen = some true ∧ s.bundleOf? 3 = some 1 ∧
      s'.members 1 = [3] ∧ s'.members 2 = [3] ∧ s'.bundleOf? 3 = some 2 ∧ ¬ s'.SingleOwner := by
  intro s s'
  have first : s'.members 1 = [3] := by decide
  have second : s'.members 2 = [3] := by decide
  have twice : s'.TwiceListed := ⟨3, 1, 2, by decide, by simp [first], by simp [second]⟩
  exact ⟨by decide, by decide, first, second, by decide, twice.not_singleOwner⟩

end Store

end Flowcheck.Ir
