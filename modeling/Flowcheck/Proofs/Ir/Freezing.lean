import Flowcheck.Proofs.Ir.Sealed

/-!
# What is frozen stays as it is

A body that is frozen is the same in every later store, up to the function that owns it, and every
call that would change it is refused. A bundle that is frozen is the same with everything in it,
since the bodies of its functions are frozen too, and it takes no further function.

A refusal has no effect, and it names the freeze as its cause whatever the arguments of the call
are: each call looks at the freeze before it looks at anything else about the nodes it was given.
-/

namespace Flowcheck.Ir

open Store

variable {s s' : Store}

/-! ## Refusals -/

/-- The error of a call that would change something frozen. -/
def Error.IsReadOnly (e : Error) : Prop :=
  e.report.kind = .graph ∧ e.report.code? = some .readOnly

namespace Body

variable {b : Body}

theorem checkMutable_of_frozen (frozen : b.frozen = true) :
    b.checkMutable = .error (.frozenBody b.scope) := by
  rw [checkMutable, if_pos frozen]

theorem addEdge_of_frozen (frozen : b.frozen = true) (src dst : Block) :
    b.addEdge src dst = .error (.frozenBody b.scope) := by
  rw [addEdge, checkMutable_of_frozen frozen]
  rfl

theorem setEntry_of_frozen (frozen : b.frozen = true) (bb : Block) :
    b.setEntry bb = .error (.frozenBody b.scope) := by
  rw [setEntry, checkMutable_of_frozen frozen]
  rfl

theorem setExit_of_frozen (frozen : b.frozen = true) (bb : Block) :
    b.setExit bb = .error (.frozenBody b.scope) := by
  rw [setExit, checkMutable_of_frozen frozen]
  rfl

end Body

namespace Store

variable {α β : Type}

/-- A call is refused because what it would change is frozen, and has no effect. -/
def Refuses (s : Store) (m : StoreM α) : Prop := ∃ e, s.exec m = (.error e, s) ∧ e.IsReadOnly

namespace Refuses

theorem throw {e : Error} (he : e.IsReadOnly) : s.Refuses (throw e : StoreM α) := ⟨e, rfl, he⟩

theorem demand {uid : Nat} {find : Store → Option β} {x : β} (hx : find s = some x)
    {f : β → StoreM α} (h : s.Refuses (f x)) : s.Refuses (demand uid find >>= f) := by
  obtain ⟨e, run, he⟩ := h
  exact ⟨e, (exec_demand_some hx f).trans run, he⟩

theorem lift {x : Except Error β} {e : Error} (hx : x = .error e) (he : e.IsReadOnly)
    {f : β → StoreM α} : s.Refuses (liftM x >>= f) := by
  refine ⟨e, ?_, he⟩
  rw [exec_bind, exec_lift, hx]

end Refuses

section FrozenBody

variable {body : Nat} {b : Body} (hb : s.bodies.get? body = some b) (frozen : b.frozen = true)

include hb frozen

theorem refuses_addBlock (name : String) : s.Refuses (addBlock body name) :=
  .demand hb (.lift (Body.checkMutable_of_frozen frozen) ⟨rfl, rfl⟩)

theorem refuses_addStatement {block statement : Nat} {e : StatementEntry}
    (home : s.homes.get? block = some body) (he : s.statements.get? statement = some e) :
    s.Refuses (addStatement block statement) :=
  .demand home (.demand hb (.demand he (.lift (Body.checkMutable_of_frozen frozen) ⟨rfl, rfl⟩)))

theorem refuses_addEdge {src dst : Nat} {sb db : Block} (hs : s.block? src = some sb)
    (hd : s.block? dst = some db) : s.Refuses (addEdge body src dst) :=
  .demand hb (.demand hs (.demand hd (.lift (Body.addEdge_of_frozen frozen sb db) ⟨rfl, rfl⟩)))

theorem refuses_setEntry {block : Nat} {bb : Block} (hbb : s.block? block = some bb) :
    s.Refuses (setEntry body block) :=
  .demand hb (.demand hbb (.lift (Body.setEntry_of_frozen frozen bb) ⟨rfl, rfl⟩))

theorem refuses_setExit {block : Nat} {bb : Block} (hbb : s.block? block = some bb) :
    s.Refuses (setExit body block) :=
  .demand hb (.demand hbb (.lift (Body.setExit_of_frozen frozen bb) ⟨rfl, rfl⟩))

end FrozenBody

theorem refuses_addFunction {bundle function : Nat} {e : BundleEntry} {f : FunctionEntry}
    (he : s.bundles.get? bundle = some e) (frozen : e.frozen = true)
    (hf : s.functions.get? function = some f) : s.Refuses (addFunction bundle function) := by
  refine .demand he (.demand hf ?_)
  rw [if_pos frozen]
  exact .throw ⟨rfl, rfl⟩

theorem refuses_function {bundle : Nat} {e : BundleEntry} (he : s.bundles.get? bundle = some e)
    (built : e.built = true) (name : String) : s.Refuses (BundleBuilder.function bundle name) := by
  refine .demand he ?_
  rw [if_pos built]
  exact .throw ⟨rfl, rfl⟩

/-! ## What is frozen -/

/-- A body that was frozen as `b` is as it was, and refuses every change. -/
structure KeepsBody (s : Store) (body : Nat) (b : Body) : Prop where
  same : ∃ owner?, s.bodies.get? body = some { b with owner? }
  blocks : ∀ bb ∈ b.blocks, s.block? bb.uid = some bb
  addBlock : ∀ name, s.Refuses (addBlock body name)
  addEdge : ∀ src ∈ s.homes.keys, ∀ dst ∈ s.homes.keys, s.Refuses (addEdge body src dst)
  setEntry : ∀ block ∈ s.homes.keys, s.Refuses (setEntry body block)
  setExit : ∀ block ∈ s.homes.keys, s.Refuses (setExit body block)
  addStatement : ∀ bb ∈ b.blocks, ∀ st ∈ s.statements.keys, s.Refuses (addStatement bb.uid st)

theorem WellFormed.exists_block (h : s.WellFormed) {block : Nat} (key : block ∈ s.homes.keys) :
    ∃ bb, s.block? block = some bb := by
  obtain ⟨body, home⟩ := Assoc.mem_keys_iff.1 key
  obtain ⟨_, bb, hu, listed | stray⟩ := h.housed.home block body home
  · exact ⟨bb, h.block?_eq_some_iff.2 ⟨.inl ⟨body, listed⟩, hu⟩⟩
  · exact ⟨bb, h.block?_eq_some_iff.2 ⟨.inr stray, hu⟩⟩

theorem Extends.keepsBody (ext : s.Extends s') (h' : s'.WellFormed) {body : Nat} {b : Body}
    (hb : s.bodies.get? body = some b) (frozen : b.frozen = true) : s'.KeepsBody body b := by
  obtain ⟨b', hb', keeps⟩ := ext.bodies body b hb
  obtain ⟨owner?, rfl⟩ := keeps.frozen frozen
  have listed (bb : Block) (hbb : bb ∈ b.blocks) : bb ∈ s'.blocksOf body := by
    rwa [blocksOf_eq hb']
  constructor
  · exact ⟨owner?, hb'⟩
  · intro bb hbb
    exact h'.block?_eq_some_iff.2 ⟨.inl ⟨body, listed bb hbb⟩, rfl⟩
  · exact refuses_addBlock hb' frozen
  · intro src hs dst hd
    obtain ⟨sb, hs⟩ := h'.exists_block hs
    obtain ⟨db, hd⟩ := h'.exists_block hd
    exact refuses_addEdge hb' frozen hs hd
  · intro block key
    obtain ⟨bb, hbb⟩ := h'.exists_block key
    exact refuses_setEntry hb' frozen hbb
  · intro block key
    obtain ⟨bb, hbb⟩ := h'.exists_block key
    exact refuses_setExit hb' frozen hbb
  · intro bb hbb st hst
    obtain ⟨e, he⟩ := Assoc.mem_keys_iff.1 hst
    exact refuses_addStatement hb' frozen (h'.housed.listed body bb (listed bb hbb)) he

/-- A bundle that was frozen as `e` in `s` is in `s'` as it was, with everything in it, and takes no
further function. -/
structure KeepsBundle (s s' : Store) (bundle : Nat) (e : BundleEntry) : Prop where
  same : ∃ built, s'.bundles.get? bundle = some { e with built }
  seen : s'.bundle? bundle = s.bundle? bundle
  addFunction : ∀ f ∈ s'.functions.keys, s'.Refuses (addFunction bundle f)
  bodies : ∀ f ∈ e.functions, s'.HasFrozenBody f

/-- A function with a frozen body stays as it is; its body has an owner already. -/
theorem Extends.function?_eq (ext : s.Extends s') (h : s.WellFormed) {function : Nat}
    (frozen : s.HasFrozenBody function) : s'.function? function = s.function? function := by
  obtain ⟨f, b, hf, hb, frozen⟩ := frozen
  obtain ⟨_, hf', _, rfl⟩ := ext.functions function f hf
  obtain ⟨b', hb', keeps⟩ := ext.bodies f.body b hb
  have owner : b.owner? = some ⟨function, f.name⟩ := by
    rw [← ownerOf_eq hb, h.owned.body function f hf]
  -- The owner is all that could have changed, and it is there already.
  have same : b' = b := by
    have owner' := keeps.owner _ owner
    obtain ⟨owner?, rfl⟩ := keeps.frozen frozen
    rw [show owner? = b.owner? from owner'.trans owner.symm]
  simp [function?, hf, hf', hb, hb', same]

theorem Extends.keepsBundle (ext : s.Extends s') (h : s.WellFormed) (sealed : s.Sealed)
    {bundle : Nat} {e : BundleEntry} (he : s.bundles.get? bundle = some e)
    (frozen : e.frozen = true) : s.KeepsBundle s' bundle e := by
  have frozenBody := sealed bundle e he frozen
  obtain ⟨e', he', keeps⟩ := ext.bundles bundle e he
  obtain ⟨built, rfl⟩ := keeps.frozen frozen
  constructor
  · exact ⟨built, he'⟩
  · have functions : e.functions.filterMap s'.function? = e.functions.filterMap s.function? :=
      List.filterMap_congr fun f hf ↦ ext.function?_eq h (frozenBody f hf)
    simp [bundle?, he, he', functions]
  · intro f key
    obtain ⟨entry, hf⟩ := Assoc.mem_keys_iff.1 key
    exact refuses_addFunction he' frozen hf
  · exact fun f hf ↦ ext.hasFrozenBody (frozenBody f hf)

/-- A bundle that a builder has handed out is frozen, and the builder makes no more functions. -/
structure HandedOut (s : Store) (bundle : Nat) : Prop where
  frozen : ∃ e, s.bundles.get? bundle = some e ∧ e.frozen = true
  function : ∀ name, s.Refuses (BundleBuilder.function bundle name)

/-- What is frozen in a store stays so, whatever is done later. -/
structure StaysFrozen (s : Store) (later : List Operation) : Prop where
  body : ∀ uid b, s.bodies.get? uid = some b → b.frozen = true → (s.run later).KeepsBody uid b
  bundle : ∀ uid e, s.bundles.get? uid = some e → e.frozen = true →
    s.KeepsBundle (s.run later) uid e
  /-- A builder does hand out its bundle when it is asked to. -/
  build : ∀ uid ∈ s.bundles.keys, ∀ check,
    s.answer (BundleBuilder.build uid check) = .ok () ∧
      ((s.after (BundleBuilder.build uid check)).run later).HandedOut uid

end Store

/-- **What is frozen never changes**, whatever was done before and whatever is done later. -/
theorem staysFrozen_run (nextUid : Nat) (ops later : List Operation) :
    (Store.run { nextUid } ops).StaysFrozen later := by
  have h : (Store.run { nextUid } ops).WellFormed := (wellFormed_empty nextUid).run ops
  have sealed : (Store.run { nextUid } ops).Sealed :=
    (sealed_empty nextUid).run (wellFormed_empty nextUid) ops
  have ext := h.extends_run later
  constructor
  · exact fun uid b hb frozen ↦ ext.keepsBody (h.run later) hb frozen
  · exact fun uid e he frozen ↦ ext.keepsBundle h sealed he frozen
  · intro uid key check
    obtain ⟨e, he⟩ := Assoc.mem_keys_iff.1 key
    obtain ⟨s', run, h', _, he', -⟩ := exec_build h sealed he check
    obtain ⟨e', he'', keeps⟩ := (h'.extends_run later).bundles uid _ he'
    obtain ⟨built, rfl⟩ := keeps.frozen rfl
    rw [answer, after, run]
    exact ⟨rfl, ⟨_, he'', rfl⟩, refuses_function he'' (keeps.built rfl)⟩

/-- A bundle from a builder and, afterwards, calls on what is in it by those who still hold it. -/
theorem staysFrozen_run_handedOut :
    let s := Store.run {} [.startBundle "unit", .buildFunction 1 "main",
      .buildBlock 2 "entry" [("nop", [])], .buildBundle 1 true]
    let later : List Operation := [.buildBlock 2 "late" [], .addEdge 3 4 4, .newStatement "nop" [],
      .addStatement 4 6, .newBundle "other", .addFunction 7 2, .buildFunction 1 "more"]
    ∃ b e, s.bodies.get? 3 = some b ∧ b.frozen = true ∧ b.uids = [4] ∧
      s.bundles.get? 1 = some e ∧ e.frozen = true ∧ e.functions = [2] ∧
      (s.run later).KeepsBody 3 b ∧ s.KeepsBundle (s.run later) 1 e := by
  intro s later
  have hbody : (s.bodies.get? 3).map (fun b ↦ (b.frozen, b.uids)) = some (true, [4]) := by
    decide +kernel
  have hbundle : (s.bundles.get? 1).map (fun e ↦ (e.frozen, e.functions)) = some (true, [2]) := by
    decide +kernel
  obtain ⟨b, hb, hb'⟩ := Option.map_eq_some_iff.1 hbody
  obtain ⟨e, he, he'⟩ := Option.map_eq_some_iff.1 hbundle
  obtain ⟨bodyFrozen, uids⟩ := Prod.mk.inj hb'
  obtain ⟨bundleFrozen, functions⟩ := Prod.mk.inj he'
  have stays : s.StaysFrozen later := staysFrozen_run 1 _ later
  exact ⟨b, e, hb, bodyFrozen, uids, he, bundleFrozen, functions, stays.body 3 b hb bodyFrozen,
    stays.bundle 1 e he bundleFrozen⟩

end Flowcheck.Ir
