import Flowcheck.Proofs.Ir.Refusal

/-!
# What accepted operations do

A refused operation leaves things as they are. The counterpart is said here for the calls of the
builders: what is enough for a call to be accepted, and what it writes then. While a function is
made all calls write its body and nothing else about bundles, functions and bodies, so what they do
together is what they do to that body (`Rewrites`).
-/

namespace Flowcheck.Ir

open Store

variable {s s' s'' : Store}

/-! ## Sequences of accepted operations -/

/-- Every operation of a sequence is accepted, and this is the store after the last one. -/
inductive Store.Completes : Store → List Operation → Store → Prop where
  | nil (s : Store) : Completes s [] s
  | cons {s s' s'' : Store} {op : Operation} {ops : List Operation}
      (accepted : s.exec op.perform = (.ok (), s')) (rest : Completes s' ops s'') :
      Completes s (op :: ops) s''

namespace Store.Completes

variable {ops ops' : List Operation}

theorem single {op : Operation} (accepted : s.exec op.perform = (.ok (), s')) :
    s.Completes [op] s' := .cons accepted (.nil s')

theorem append (h : s.Completes ops s') (h' : s'.Completes ops' s'') :
    s.Completes (ops ++ ops') s'' := by
  induction h with
  | nil => exact h'
  | cons accepted _ ih => exact .cons accepted (ih h')

/-- The operations are a run, which has come through without a refusal. -/
theorem run_eq (h : s.Completes ops s') : s.run ops = s' := by
  induction h with
  | nil => rfl
  | @cons s s' _ op ops accepted _ ih =>
    have first : s.after op.perform = s' := congrArg Prod.snd accepted
    rw [run, first, ih]

theorem wellFormed (h : s.Completes ops s') (wf : s.WellFormed) : s'.WellFormed :=
  h.run_eq ▸ wf.run ops

theorem sealed (h : s.Completes ops s') (wf : s.WellFormed) (sealed : s.Sealed) : s'.Sealed :=
  h.run_eq ▸ sealed.run wf ops

end Store.Completes

/-! ## A body under construction -/

/-- A function has this body, which may be changed. -/
structure Store.Drafts (s : Store) (function : Nat) (b : Body) : Prop where
  entry : ∃ f, s.functions.get? function = some f ∧ f.body = b.uid
  body : s.bodies.get? b.uid = some b
  mutable : b.frozen = false

/-- Of all bundles, functions and bodies, one body is written and nothing else is changed. The next
number is `next` then. -/
structure Store.Rewrites (s : Store) (b : Body) (next : Nat) (s' : Store) : Prop where
  nextUid : s'.nextUid = next
  bundles : s'.bundles = s.bundles
  functions : s'.functions = s.functions
  body : ∀ uid, s'.bodies.get? uid = if b.uid = uid then some b else s.bodies.get? uid

namespace Store.Rewrites

variable {b b' : Body} {next next' : Nat}

theorem refl (hb : s.bodies.get? b.uid = some b) : s.Rewrites b s.nextUid s where
  nextUid := rfl
  bundles := rfl
  functions := rfl
  body uid := by
    split
    · rename_i same
      exact same ▸ hb
    · rfl

theorem trans (h : s.Rewrites b next s') (h' : s'.Rewrites b' next' s'') (same : b'.uid = b.uid) :
    s.Rewrites b' next' s'' where
  nextUid := h'.nextUid
  bundles := h'.bundles.trans h.bundles
  functions := h'.functions.trans h.functions
  body uid := by
    rw [h'.body, h.body, same]
    split <;> rfl

/-- A body is written under its number, along with tables that are about blocks and statements. -/
theorem of_insert (homes : Assoc Nat Nat) (strays : List Block)
    (statements : Assoc Nat StatementEntry) :
    s.Rewrites b next
      { s with nextUid := next, bodies := s.bodies.insert b.uid b, homes, strays, statements } where
  nextUid := rfl
  bundles := rfl
  functions := rfl
  body uid := Assoc.get?_insert s.bodies b.uid uid b

end Store.Rewrites

namespace Store.Drafts

variable {function : Nat} {b b' : Body} {next : Nat}

theorem rewrites (h : s.Drafts function b) (written : s.Rewrites b' next s')
    (same : b'.uid = b.uid) (mutable : b'.frozen = false) : s'.Drafts function b' where
  entry := by
    rw [written.functions, same]
    exact h.entry
  body := by rw [written.body, if_pos rfl]
  mutable := mutable

theorem wellFormed (h : s.Drafts function b) (wf : s.WellFormed) : b.WellFormed :=
  wf.body b.uid b h.body

/-! ## Calls of a function builder -/

variable {name src dst : String} {bb bs bd : Block}

/-- A name of the body leads to its block. -/
theorem exec_resolve (h : s.Drafts function b) (found : b.named? name = some bb) :
    s.exec (FunctionBuilder.resolve function name) = (.ok bb.uid, s) := by
  obtain ⟨f, hf, own⟩ := h.entry
  obtain ⟨uid, hu, listed⟩ := Option.bind_eq_some_iff.1 found
  have known : b.hasBlock name = true := Assoc.contains_iff.2 (Assoc.mem_keys_of_get? hu)
  have resolved : b.blockByName name = .ok bb := by
    rw [Body.blockByName, hu]
    simp only [listed]
  rw [FunctionBuilder.resolve, getFunction, exec_demand_some hf, getBody,
    exec_demand_some (own ▸ h.body)]
  simp only [known, resolved]
  rfl

/-- The block is found by its number, too, and counts as the body's own. -/
theorem own_of_named? (h : s.Drafts function b) (wf : s.WellFormed)
    (found : b.named? name = some bb) (role : BlockRole) :
    s.block? bb.uid = some bb ∧ b.checkOwn role bb = .ok () := by
  obtain ⟨_, _, found⟩ := Option.bind_eq_some_iff.1 found
  have listed := Body.mem_of_block? found
  constructor
  · refine wf.block?_eq_some_iff.2 ⟨.inl ⟨b.uid, ?_⟩, rfl⟩
    rwa [blocksOf_eq h.body]
  · exact Body.checkOwn_eq_ok_iff.2 (List.mem_map_of_mem listed)

theorem exec_edge (h : s.Drafts function b) (wf : s.WellFormed) (hs : b.named? src = some bs)
    (hd : b.named? dst = some bd) :
    ∃ s', s.exec (FunctionBuilder.edge function src dst) = (.ok (), s') ∧
      s.Rewrites (b.link bs.uid bd.uid) s.nextUid s' := by
  obtain ⟨f, hf, own⟩ := h.entry
  obtain ⟨foundS, ownS⟩ := h.own_of_named? wf hs .plain
  obtain ⟨foundD, ownD⟩ := h.own_of_named? wf hd .plain
  have linked : b.addEdge bs bd = .ok (b.link bs.uid bd.uid) := by
    rw [Body.addEdge, Body.checkMutable_eq_ok_iff.2 h.mutable, ownS, ownD]
    rfl
  refine ⟨_, ?_, .of_insert s.homes s.strays s.statements⟩
  rw [FunctionBuilder.edge, getFunction, exec_demand_some hf, exec_bind, h.exec_resolve hs]
  dsimp only
  rw [exec_bind, h.exec_resolve hd]
  dsimp only
  rw [addEdge, getBody, exec_demand_some (own ▸ h.body), getBlock, exec_demand_some foundS,
    getBlock, exec_demand_some foundD, linked]
  rfl

/-- A call that finds a block by its name and writes the body with it. -/
theorem exec_mark (h : s.Drafts function b) (wf : s.WellFormed) (found : b.named? name = some bb)
    {mark : Body → Block → Except Error Body} (marked : mark b bb = .ok b') :
    ∃ s', s.exec (do
        let f ← getFunction function
        let block ← FunctionBuilder.resolve function name
        let b ← getBody f.body
        let bb ← getBlock block
        putBody (← mark b bb)) = (.ok (), s') ∧ s.Rewrites b' s.nextUid s' := by
  obtain ⟨f, hf, own⟩ := h.entry
  obtain ⟨there, -⟩ := h.own_of_named? wf found .plain
  refine ⟨_, ?_, .of_insert s.homes s.strays s.statements⟩
  rw [getFunction, exec_demand_some hf, exec_bind, h.exec_resolve found]
  dsimp only
  rw [getBody, exec_demand_some (own ▸ h.body), getBlock, exec_demand_some there, marked]
  rfl

theorem exec_entry (h : s.Drafts function b) (wf : s.WellFormed) (found : b.named? name = some bb) :
    ∃ s', s.exec (FunctionBuilder.entry function name) = (.ok (), s') ∧
      s.Rewrites { b with entryUid? := some bb.uid } s.nextUid s' := by
  have set : b.setEntry bb = .ok { b with entryUid? := some bb.uid } := by
    rw [Body.setEntry, Body.checkMutable_eq_ok_iff.2 h.mutable,
      (h.own_of_named? wf found .entry).2]
    rfl
  exact h.exec_mark wf found set

theorem exec_exit (h : s.Drafts function b) (wf : s.WellFormed) (found : b.named? name = some bb) :
    ∃ s', s.exec (FunctionBuilder.exit function name) = (.ok (), s') ∧
      s.Rewrites { b with exitUid? := some bb.uid } s.nextUid s' := by
  have set : b.setExit bb = .ok { b with exitUid? := some bb.uid } := by
    rw [Body.setExit, Body.checkMutable_eq_ok_iff.2 h.mutable,
      (h.own_of_named? wf found .exit).2]
    rfl
  exact h.exec_mark wf found set

/-- A block is added, so far without statements, and lives in the body. -/
theorem exec_addBlock (h : s.Drafts function b) (ne : name ≠ "") (new : b.hasBlock name = false) :
    ∃ s', s.exec (addBlock b.uid name) = (.ok s.nextUid, s') ∧
      s.Rewrites (b.pushBlock s.nextUid name) (s.nextUid + 1) s' ∧
        s'.homes.get? s.nextUid = some b.uid := by
  refine ⟨_, ?_, .of_insert (s.homes.insert s.nextUid b.uid) s.strays s.statements, ?_⟩
  · rw [addBlock, getBody, exec_demand_some h.body, exec_bind, exec_lift,
      Body.checkMutable_eq_ok_iff.2 h.mutable]
    dsimp only
    rw [exec_bind, exec_lift, Body.checkNewName_eq_ok_iff.2 ⟨ne, new⟩]
    rfl
  · rw [Assoc.get?_insert, if_pos rfl]

/-- A statement is added to a block that lives in the body. -/
theorem exec_fill (h : s.Drafts function b) {block : Nat}
    (home : s.homes.get? block = some b.uid) {opcode : String} (ne : opcode ≠ "")
    (operands : List String) :
    ∃ s', s.exec (fill block (opcode, operands)) = (.ok (), s') ∧
      s.Rewrites (b.pushStatement block ⟨s.nextUid, opcode, operands⟩) (s.nextUid + 1) s' ∧
        s'.homes = s.homes :=
  ⟨_, Store.exec_fill home h.body h.mutable ne operands, .of_insert _ _ _, rfl⟩

end Store.Drafts

/-! ## Calls of a bundle builder -/

theorem Store.exec_discard {α : Type} {m : StoreM α} {a : α} (h : s.exec m = (.ok a, s')) :
    s.exec (discard m) = (.ok (), s') := by
  show s.exec (m >>= fun _ ↦ pure ()) = _
  rw [exec_bind, h]
  rfl

/-- A function that is not in a bundle is not looked at when names are compared. -/
theorem Store.functionNames_insert {fs : List Nat} {uid : Nat} (other : uid ∉ fs)
    (f : FunctionEntry) :
    functionNames { s with functions := s.functions.insert uid f } fs = s.functionNames fs := by
  apply List.filterMap_congr
  intro uid' here
  have ne : uid ≠ uid' := fun same ↦ other (same ▸ here)
  rw [functionName?, functionName?, Assoc.get?_insert, if_neg ne]

/-- A function is made and added to the bundle, with an empty body. -/
theorem Store.WellFormed.exec_buildFunction (wf : s.WellFormed) {bundle : Nat} {e : BundleEntry}
    (he : s.bundles.get? bundle = some e) (mutable : e.frozen = false) (kept : e.built = false)
    {name : String} (ne : name ≠ "") (new : name ∉ s.functionNames e.functions) :
    s.exec (BundleBuilder.function bundle name) = (.ok s.nextUid, { s.spend.spend with
      bundles := s.bundles.insert bundle { e with functions := e.functions ++ [s.nextUid] }
      functions := s.functions.insert s.nextUid
        { name, body := s.nextUid + 1, bundle? := some bundle }
      bodies := s.bodies.insert (s.nextUid + 1)
        { uid := s.nextUid + 1, owner? := some ⟨s.nextUid, name⟩ } }) := by
  set made : Store := { s.spend.spend with
    bodies := s.bodies.insert (s.nextUid + 1)
      { uid := s.nextUid + 1, owner? := some ⟨s.nextUid, name⟩ }
    functions := s.functions.insert s.nextUid { name, body := s.nextUid + 1 } } with hmade
  have found : made.functions.get? s.nextUid = some { name, body := s.nextUid + 1 } := by
    rw [hmade, Assoc.get?_insert, if_pos rfl]
  have unlisted : s.nextUid ∉ e.functions := fun listed ↦
    wf.numbered.unused_next.function (wf.listed.exist bundle e he _ listed)
  have new : name ∉ made.functionNames e.functions := by
    have same : made.functionNames e.functions = s.functionNames e.functions :=
      s.functionNames_insert unlisted { name, body := s.nextUid + 1 }
    rwa [same]
  have add : made.exec (addFunction bundle s.nextUid) = (.ok (), { made with
      functions := made.functions.insert s.nextUid
        { name, body := s.nextUid + 1, bundle? := some bundle }
      bundles := s.bundles.insert bundle { e with functions := e.functions ++ [s.nextUid] } }) := by
    have he : made.bundles.get? bundle = some e := he
    rw [addFunction, getBundle, exec_demand_some he, getFunction, exec_demand_some found]
    show made.exec (if e.frozen = true then _ else _) = _
    rw [if_neg (by simp [mutable])]
    show made.exec (if name ∈ made.functionNames e.functions then _ else _) = _
    rw [if_neg new]
    rfl
  rw [BundleBuilder.function, getBundle, exec_demand_some he]
  show s.exec (if e.built = true then _ else _) = _
  rw [if_neg (by simp [kept])]
  show s.exec (newFunction name none >>= fun f ↦ _) = _
  rw [exec_bind, exec_newFunction ne]
  show made.exec (addFunction bundle s.nextUid >>= fun _ ↦ pure s.nextUid) = _
  rw [exec_bind, add]
  dsimp only
  rw [Assoc.insert_insert]
  rfl

end Flowcheck.Ir
