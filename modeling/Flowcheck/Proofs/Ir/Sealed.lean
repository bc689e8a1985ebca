import Flowcheck.Proofs.Ir.Extension

/-!
# Sealed bundles

The functions of a frozen bundle have frozen bodies. This does not hold at every moment: freezing a
bundle closes the bundle first and then the bodies one by one, so `Sealed` fails in between and is
an invariant of whole operations only. That the second half is never cut short is where the rest of
the invariant comes in: every function of a bundle exists, and so does its body.
-/

namespace Flowcheck.Ir

open Store

variable {s s' : Store} {c : Change}

/-! ## The invariant -/

/-- The body of a function is frozen. -/
def Store.HasFrozenBody (s : Store) (function : Nat) : Prop :=
  ∃ f b, s.functions.get? function = some f ∧ s.bodies.get? f.body = some b ∧ b.frozen = true

/-- The functions of frozen bundles have frozen bodies. -/
def Store.Sealed (s : Store) : Prop :=
  ∀ uid e, s.bundles.get? uid = some e → e.frozen = true → ∀ f ∈ e.functions, s.HasFrozenBody f

theorem Store.sealed_empty (nextUid : Nat) : Sealed { nextUid } := by simp [Sealed]

theorem Store.Extends.hasFrozenBody (h : s.Extends s') {function : Nat}
    (frozen : s.HasFrozenBody function) : s'.HasFrozenBody function := by
  obtain ⟨f, b, hf, hb, frozen⟩ := frozen
  obtain ⟨_, hf', _, rfl⟩ := h.functions function f hf
  obtain ⟨b', hb', keeps⟩ := h.bodies f.body b hb
  obtain ⟨_, rfl⟩ := keeps.frozen frozen
  exact ⟨_, _, hf', hb', frozen⟩

/-- Only closing a bundle makes a bundle frozen, and a frozen one gets no more functions. -/
theorem Step.frozen_before (step : Step s c s') (hc : c.freezesBundle = false) :
    ∀ uid e, s'.bundles.get? uid = some e → e.frozen = true →
      ∃ e₀, s.bundles.get? uid = some e₀ ∧ e₀.frozen = true ∧ e₀.functions = e.functions := by
  have old (uid : Nat) (e : BundleEntry) (he : s.bundles.get? uid = some e)
      (frozen : e.frozen = true) :
      ∃ e₀, s.bundles.get? uid = some e₀ ∧ e₀.frozen = true ∧ e₀.functions = e.functions :=
    ⟨e, he, frozen, rfl⟩
  cases step with
  | newBundle _ => exact Assoc.forall_get?_insert (by simp) old
  | addFunction _ _ mutable _ => exact Assoc.forall_get?_insert (by simp [mutable]) old
  | freezeBundle _ => exact absurd hc (by simp [Change.freezesBundle])
  | @handOut bundle e he =>
    exact Assoc.forall_get?_insert (fun frozen ↦ ⟨e, he, frozen, rfl⟩) old
  | spend | newBody | newBlock | newFunction | newFunctionAndBody | newStatement | addBlock
  | addStatement | edit => exact old

/-- Every change but one keeps bundles sealed. -/
theorem Step.sealed (h : s.WellFormed) (sealed : s.Sealed) (step : Step s c s')
    (hc : c.freezesBundle = false) : s'.Sealed := by
  intro uid e he frozen f hf
  obtain ⟨e₀, he₀, frozen₀, same⟩ := step.frozen_before hc uid e he frozen
  exact (step.extends h).hasFrozenBody (sealed uid e₀ he₀ frozen₀ f (same ▸ hf))

/-! ## Freezing a bundle -/

namespace Store

theorem exec_freezeBody {body : Nat} {b : Body} (hb : s.bodies.get? body = some b) :
    s.exec (freezeBody body) = (.ok (), { s with bodies := s.bodies.insert b.uid b.freeze }) := by
  rw [freezeBody, getBody, exec_demand_some hb]
  rfl

/-- The numbers of the bodies of functions. -/
def bodiesOf (s : Store) (fs : List Nat) : List Nat :=
  fs.filterMap fun f ↦ (s.functions.get? f).map FunctionEntry.body

/-- Of functions, bodies and numbers nothing is changed, except that the bodies of some functions
are frozen. -/
structure Closes (s : Store) (fs : List Nat) (s' : Store) : Prop where
  nextUid : s'.nextUid = s.nextUid
  functions : s'.functions = s.functions
  body : ∀ uid, s'.bodies.get? uid =
    (s.bodies.get? uid).map fun b ↦ if uid ∈ s.bodiesOf fs then b.freeze else b

theorem closes_nil (s : Store) : s.Closes [] s := ⟨rfl, rfl, fun uid ↦ by simp [bodiesOf]⟩

theorem Closes.cons {function : Nat} {fs : List Nat} {f : FunctionEntry} {b : Body}
    (hf : s.functions.get? function = some f) (hb : s.bodies.get? f.body = some b)
    (rest : Closes { s with bodies := s.bodies.insert f.body b.freeze } fs s') :
    s.Closes (function :: fs) s' where
  nextUid := rest.nextUid
  functions := rest.functions
  body uid := by
    have bodies : s.bodiesOf (function :: fs) = f.body :: s.bodiesOf fs := by
      rw [bodiesOf, List.filterMap_cons_some (by rw [hf]; rfl)]
      rfl
    have later : s'.bodies.get? uid = ((s.bodies.insert f.body b.freeze).get? uid).map fun b ↦
        if uid ∈ s.bodiesOf fs then b.freeze else b := rest.body uid
    rw [later, bodies, Assoc.get?_insert]
    by_cases here : f.body = uid
    · subst here
      rw [if_pos rfl, hb]
      simp [Body.freeze]
    · rw [if_neg here]
      simp [Ne.symm here]

/-- The bodies of functions are frozen one by one, and all of them are. -/
theorem exec_freezeBodies (h : s.WellFormed) {fs : List Nat}
    (keys : ∀ f ∈ fs, f ∈ s.functions.keys) :
    ∃ s', s.exec (fs.forM fun function ↦ do freezeBody (← getFunction function).body) =
        (.ok (), s') ∧ s'.WellFormed ∧ s.Extends s' ∧ s'.bundles = s.bundles ∧
      (∀ f ∈ fs, s'.HasFrozenBody f) ∧ s.Closes fs s' := by
  induction fs generalizing s with
  | nil => exact ⟨s, rfl, h, .refl s, rfl, by simp, closes_nil s⟩
  | cons function fs ih =>
    obtain ⟨key, keys⟩ := List.forall_mem_cons.1 keys
    obtain ⟨f, hf⟩ := Assoc.mem_keys_iff.1 key
    obtain ⟨b, hb, _⟩ := Option.bind_eq_some_iff.1 (h.owned.body function f hf)
    have step : Step s (.edit f.body .freeze)
        { s with bodies := s.bodies.insert b.uid b.freeze } := .edit hb .freeze
    have frozen : HasFrozenBody { s with bodies := s.bodies.insert b.uid b.freeze } function := by
      refine ⟨f, b.freeze, hf, ?_, rfl⟩
      rw [h.uid_eq _ _ hb, Assoc.get?_insert, if_pos rfl]
    -- The others are frozen from the store after this one on, and leave its body frozen.
    obtain ⟨s', run, wf, ext, bundles, others, closes⟩ := ih (step.wellFormed h) keys
    rw [h.uid_eq _ _ hb] at closes
    refine ⟨s', ?_, wf, (step.extends h).trans ext, bundles,
      List.forall_mem_cons.2 ⟨ext.hasFrozenBody frozen, others⟩, .cons hf hb closes⟩
    show s.exec ((do freezeBody (← getFunction function).body) >>= fun _ ↦ fs.forM _) = _
    rw [exec_bind, getFunction, exec_demand_some hf, exec_freezeBody hb]
    exact run

/-- **Freezing a bundle succeeds**, and then the bundle and its bodies are frozen. -/
theorem exec_freezeBundle (h : s.WellFormed) (sealed : s.Sealed) {bundle : Nat} {e : BundleEntry}
    (he : s.bundles.get? bundle = some e) :
    ∃ s', s.exec (freezeBundle bundle) = (.ok (), s') ∧ s'.WellFormed ∧ s'.Sealed ∧
      s'.bundles = s.bundles.insert bundle { e with frozen := true } ∧ s.Closes e.functions s' := by
  have step := Step.freezeBundle he
  obtain ⟨s', run, wf, ext, bundles, frozen, closes⟩ :=
    exec_freezeBodies (step.wellFormed h) (h.listed.exist bundle e he)
  refine ⟨s', ?_, wf, ?_, bundles, closes.nextUid, closes.functions, closes.body⟩
  · rw [freezeBundle, getBundle, exec_demand_some he]
    exact run
  · -- A bundle that was sealed before stays so; this one is sealed by the second half.
    have old (uid : Nat) (e' : BundleEntry) (he' : s.bundles.get? uid = some e')
        (frozen' : e'.frozen = true) : ∀ f ∈ e'.functions, s'.HasFrozenBody f := fun f hf ↦
      ((step.extends h).trans ext).hasFrozenBody (sealed uid e' he' frozen' f hf)
    rw [Sealed, bundles]
    exact Assoc.forall_get?_insert (fun _ ↦ frozen) old

theorem exec_validate (h : s.WellFormed) {bundle : Nat} {e : BundleEntry}
    (he : s.bundles.get? bundle = some e) : s.exec (validate bundle) = (.ok (), s) := by
  obtain ⟨b, hb, _, valid⟩ := h.bundle?_ok he
  rw [validate, exec_demand_some hb, valid]
  rfl

theorem exec_handOut {bundle : Nat} {e : BundleEntry} (he : s.bundles.get? bundle = some e) :
    s.exec (do putBundle bundle { ← getBundle bundle with built := true }) =
      (.ok (), { s with bundles := s.bundles.insert bundle { e with built := true } }) := by
  rw [getBundle, exec_demand_some he]
  rfl

/-- **A builder hands its bundle out**, frozen, whether or not it checks it first. -/
theorem exec_build (h : s.WellFormed) (sealed : s.Sealed) {bundle : Nat} {e : BundleEntry}
    (he : s.bundles.get? bundle = some e) (check : Bool) :
    ∃ s', s.exec (BundleBuilder.build bundle check) = (.ok (), s') ∧ s'.WellFormed ∧ s'.Sealed ∧
      s'.bundles.get? bundle = some { e with frozen := true, built := true } ∧
        s.Closes e.functions s' := by
  obtain ⟨s₁, run, wf, sealed₁, bundles, closes⟩ := exec_freezeBundle h sealed he
  have he₁ : s₁.bundles.get? bundle = some { e with frozen := true } := by
    rw [bundles, Assoc.get?_insert, if_pos rfl]
  have step := Step.handOut he₁
  have finish : s.exec (do
      freezeBundle bundle
      putBundle bundle { ← getBundle bundle with built := true }) = (.ok (),
        { s₁ with bundles := s₁.bundles.insert bundle { e with frozen := true, built := true } }) := by
    rw [exec_bind, run]
    exact exec_handOut he₁
  refine ⟨_, ?_, step.wellFormed wf, step.sealed wf sealed₁ rfl, ?_, closes.nextUid,
    closes.functions, closes.body⟩
  · cases check with
    | true =>
      show s.exec (validate bundle >>= fun _ ↦ _) = _
      rw [exec_bind, exec_validate h he]
      exact finish
    | false => exact finish
  · rw [Assoc.get?_insert, if_pos rfl]

/-- A bundle that is not there cannot be frozen or handed out. -/
theorem after_of_absent {bundle : Nat} (absent : s.bundles.get? bundle = none) (check : Bool) :
    s.after (freezeBundle bundle) = s ∧ s.after (BundleBuilder.build bundle check) = s := by
  have freeze : s.exec (freezeBundle bundle) = (.error (.noSuchNode bundle), s) :=
    exec_demand_none absent _
  have unseen : s.bundle? bundle = none := by simp [bundle?, absent]
  have invalid : s.exec (validate bundle) = (.error (.noSuchNode bundle), s) :=
    exec_demand_none unseen _
  constructor
  · rw [after, freeze]
  · cases check with
    | true =>
      show (s.exec (validate bundle >>= fun _ ↦ _)).2 = s
      rw [exec_bind, invalid]
    | false =>
      show (s.exec (freezeBundle bundle >>= fun _ ↦ _)).2 = s
      rw [exec_bind, freeze]

/-- **Every operation keeps bundles sealed.** -/
theorem Sealed.perform (h : s.WellFormed) (sealed : s.Sealed) (op : Operation) :
    (s.after op.perform).Sealed := by
  by_cases hop : op.freezesBundle = true
  · cases op with
    | freezeBundle bundle =>
      cases he : s.bundles.get? bundle with
      | none => exact (after_of_absent he true).1.symm ▸ sealed
      | some e =>
        obtain ⟨s', run, _, sealed', _⟩ := exec_freezeBundle h sealed he
        rwa [after, Operation.perform, run]
    | buildBundle bundle check =>
      cases he : s.bundles.get? bundle with
      | none => exact (after_of_absent he check).2.symm ▸ sealed
      | some e =>
        obtain ⟨s', run, _, sealed', _⟩ := exec_build h sealed he check
        rwa [after, Operation.perform, run]
    | _ => exact absurd hop (by simp [Operation.freezesBundle])
  · refine h.perform_keeps sealed fun permitted ht sealed step ↦ step.sealed ht sealed ?_
    simpa [hop] using permitted.1

theorem Sealed.run (h : s.WellFormed) (sealed : s.Sealed) (ops : List Operation) :
    (s.run ops).Sealed := by
  induction ops generalizing s with
  | nil => exact sealed
  | cons op ops ih => exact ih (h.run [op]) (sealed.perform h op)

end Store

end Flowcheck.Ir
