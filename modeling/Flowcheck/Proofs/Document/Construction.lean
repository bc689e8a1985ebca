import Flowcheck.Proofs.Document.Loading
import Flowcheck.Proofs.Ir.Accepted
import Flowcheck.Proofs.Ir.Bundles

/-!
# Making a bundle with the builders

The bundle of a document is written down in one go, as a function of the document. Here it is shown
to be what the builders make: there is a sequence of their calls for every document, all of them are
accepted if the document is well formed, and what is handed out in the end is the bundle of the
document, with the same numbers. So a loaded bundle is one of those that operations lead to, and
that it is frozen is the doing of the last of them.

While a function is made its body is open. A function of a document is frozen from the start, so it
is compared with one that a store holds up to freezing (`Sketches`).
-/

namespace Flowcheck.Ir

open Store

/-! ## Calls -/

/-- The call that makes a block with its statements. -/
def BlockSpec.operation (function : Nat) (spec : BlockSpec) : Operation :=
  .buildBlock function spec.name (spec.statements.map fun s ↦ (s.opcode, s.operands))

/-- The calls that make a function of a bundle, whose number will be `next`. -/
def FunctionSpec.operations (bundle next : Nat) (spec : FunctionSpec) : List Operation :=
  .buildFunction bundle spec.name ::
    (spec.blocks.map (BlockSpec.operation next) ++
      (spec.pairs.map (fun p ↦ .buildEdge next p.1 p.2) ++
        (spec.entry?.toList.map (.buildEntry next) ++ spec.exit?.toList.map (.buildExit next))))

/-- The calls that make several functions, one after the other. -/
def FunctionSpec.operationsAll (bundle : Nat) : List FunctionSpec → Nat → List Operation
  | [], _ => []
  | spec :: rest, next =>
    spec.operations bundle next ++ operationsAll bundle rest (spec.build next).2

/-- The calls that make the bundle of a document and hand it out. -/
def Document.operations (d : Document) (next : Nat) : List Operation :=
  .startBundle d.name ::
    (FunctionSpec.operationsAll next d.functions (next + 1) ++ [.buildBundle next true])

variable {s : Store} {function : Nat} {b : Body}

/-! ## Blocks -/

/-- What blocks, statements and edges leave of a body. -/
def Body.frame (b : Body) : Nat × Bool × Option Nat × Option Nat :=
  (b.uid, b.frozen, b.entryUid?, b.exitUid?)

theorem StatementSpec.frame_addAll (block : Nat) (specs : List StatementSpec) (b : Body)
    (next : Nat) : (addAll block specs b next).1.frame = b.frame := by
  induction specs generalizing b next with
  | nil => rfl
  | cons spec specs ih => exact ih (b.pushStatement block ⟨next, spec.opcode, spec.operands⟩) _

theorem BlockSpec.frame_addTo (spec : BlockSpec) (b : Body) (next : Nat) :
    (spec.addTo b next).1.frame = b.frame :=
  StatementSpec.frame_addAll next spec.statements (b.pushBlock next spec.name) (next + 1)

theorem BlockSpec.frame_addAll (specs : List BlockSpec) (b : Body) (next : Nat) :
    (addAll specs b next).1.frame = b.frame := by
  induction specs generalizing b next with
  | nil => rfl
  | cons spec specs ih => exact (ih (spec.addTo b next).1 _).trans (spec.frame_addTo b next)

theorem Body.frame_linkNames (b : Body) (src dst : String) :
    (b.linkNames src dst).frame = b.frame := by
  rw [linkNames]
  split <;> rfl

theorem FunctionSpec.frame_linkPairs (pairs : List (String × String)) (b : Body) :
    (pairs.foldl (fun b p ↦ b.linkNames p.1 p.2) b).frame = b.frame := by
  induction pairs generalizing b with
  | nil => rfl
  | cons p pairs ih => exact (ih (b.linkNames p.1 p.2)).trans (b.frame_linkNames p.1 p.2)

theorem Store.Drafts.of_frame {s' : Store} {b' : Body} {next : Nat} (h : s.Drafts function b)
    (written : s.Rewrites b' next s') (same : b'.frame = b.frame) : s'.Drafts function b' := by
  simp only [Body.frame, Prod.mk.injEq] at same
  exact h.rewrites written same.1 (same.2.1.trans h.mutable)

theorem Body.uid_of_frame {b' : Body} (same : b'.frame = b.frame) : b'.uid = b.uid :=
  congrArg Prod.fst same

/-- The statements of a description are added one by one. -/
theorem Store.Drafts.exec_fills {block : Nat} {specs : List StatementSpec}
    (h : s.Drafts function b) (home : s.homes.get? block = some b.uid)
    (ne : ∀ spec ∈ specs, spec.opcode ≠ "") :
    ∃ s', s.exec ((specs.map fun s ↦ (s.opcode, s.operands)).forM (fill block)) = (.ok (), s') ∧
      s.Rewrites (StatementSpec.addAll block specs b s.nextUid).1
        (StatementSpec.addAll block specs b s.nextUid).2 s' := by
  induction specs generalizing s b with
  | nil => exact ⟨s, rfl, .refl h.body⟩
  | cons spec specs ih =>
    obtain ⟨here, later⟩ := List.forall_mem_cons.1 ne
    obtain ⟨s₁, first, written, homes⟩ := h.exec_fill home here spec.operands
    have drafts := h.of_frame written rfl
    obtain ⟨s', rest, all⟩ := ih drafts (homes ▸ home) later
    rw [written.nextUid] at all
    refine ⟨s', ?_, written.trans all ?_⟩
    · show s.exec (fill block (spec.opcode, spec.operands) >>= fun _ ↦ List.forM _ _) = _
      rw [exec_bind, first]
      exact rest
    · exact Body.uid_of_frame (StatementSpec.frame_addAll block specs _ _)

/-- A block is made with its statements. -/
theorem Store.Drafts.exec_block (h : s.Drafts function b) {spec : BlockSpec} (ne : spec.name ≠ "")
    (new : b.hasBlock spec.name = false) (opcodes : ∀ st ∈ spec.statements, st.opcode ≠ "") :
    ∃ s', s.exec (spec.operation function).perform = (.ok (), s') ∧
      s.Rewrites (spec.addTo b s.nextUid).1 (spec.addTo b s.nextUid).2 s' := by
  obtain ⟨f, hf, own⟩ := h.entry
  obtain ⟨s₁, added, written, home⟩ := h.exec_addBlock ne new
  have drafts := h.of_frame written rfl
  obtain ⟨s', filled, all⟩ := drafts.exec_fills home opcodes
  rw [written.nextUid] at all
  refine ⟨s', ?_, written.trans all ?_⟩
  · show s.exec (FunctionBuilder.block function spec.name _) = _
    rw [exec_buildBlock hf, own, exec_bind, added]
    exact filled
  · exact Body.uid_of_frame (StatementSpec.frame_addAll s.nextUid spec.statements _ _)

/-- The first pass: all blocks are made. -/
theorem Store.Drafts.completes_blocks {made specs : List BlockSpec} (h : s.Drafts function b)
    (declared : Declares made b s.nextUid) (ne : ∀ spec ∈ specs, spec.name ≠ "")
    (opcodes : ∀ spec ∈ specs, ∀ st ∈ spec.statements, st.opcode ≠ "")
    (nodup : ((made ++ specs).map BlockSpec.name).Nodup) :
    ∃ s', s.Completes (specs.map (BlockSpec.operation function)) s' ∧
      s.Rewrites (BlockSpec.addAll specs b s.nextUid).1 (BlockSpec.addAll specs b s.nextUid).2
        s' := by
  induction specs generalizing s b made with
  | nil => exact ⟨s, .nil s, .refl h.body⟩
  | cons spec specs ih =>
    obtain ⟨named, ne⟩ := List.forall_mem_cons.1 ne
    obtain ⟨coded, opcodes⟩ := List.forall_mem_cons.1 opcodes
    have new : spec.name ∉ made.map BlockSpec.name := fun old ↦ by
      rw [List.map_append] at nodup
      exact List.disjoint_of_nodup_append nodup old List.mem_cons_self
    rw [List.append_cons] at nodup
    obtain ⟨s₁, first, written⟩ := h.exec_block named (declared.hasBlock_eq_false new) coded
    have same := spec.frame_addTo b s.nextUid
    have declared := declared.addTo named new
    rw [← written.nextUid] at declared
    obtain ⟨s', rest, all⟩ := ih (h.of_frame written same) declared ne opcodes nodup
    rw [written.nextUid] at all
    refine ⟨s', .cons first rest, written.trans all ?_⟩
    exact Body.uid_of_frame (BlockSpec.frame_addAll specs _ _)

/-! ## Edges, entry and exit -/

/-- The second pass: all edges are made. -/
theorem Store.Drafts.completes_edges {pairs : List (String × String)} (h : s.Drafts function b)
    (wf : s.WellFormed)
    (own : ∀ p ∈ pairs, p.1 ∈ b.blocks.map Block.name ∧ p.2 ∈ b.blocks.map Block.name) :
    ∃ s', s.Completes (pairs.map fun p ↦ .buildEdge function p.1 p.2) s' ∧
      s.Rewrites (pairs.foldl (fun b p ↦ b.linkNames p.1 p.2) b) s.nextUid s' := by
  induction pairs generalizing s b with
  | nil => exact ⟨s, .nil s, .refl h.body⟩
  | cons p pairs ih =>
    obtain ⟨⟨src, dst⟩, own⟩ := List.forall_mem_cons.1 own
    obtain ⟨bs, -, -, hs⟩ := (h.wellFormed wf).named?_of_mem src
    obtain ⟨bd, -, -, hd⟩ := (h.wellFormed wf).named?_of_mem dst
    obtain ⟨s₁, first, written⟩ := h.exec_edge wf hs hd
    have linked : b.link bs.uid bd.uid = b.linkNames p.1 p.2 := by
      rw [Body.linkNames, hs, hd]
    rw [linked] at written
    have accepted : s.Completes [.buildEdge function p.1 p.2] s₁ := .single first
    have same := b.frame_linkNames p.1 p.2
    have drafts := h.of_frame written same
    obtain ⟨-, blocks, -⟩ := (h.wellFormed wf).linkNames src dst
    rw [← blocks] at own
    obtain ⟨s', rest, all⟩ := ih drafts (accepted.wellFormed wf) own
    rw [written.nextUid] at all
    refine ⟨s', accepted.append rest, written.trans all ?_⟩
    exact Body.uid_of_frame (FunctionSpec.frame_linkPairs pairs _)

/-- A block is marked if one is named: as the entry or as the exit. -/
theorem Store.Drafts.completes_mark (h : s.Drafts function b) (wf : s.WellFormed)
    (call : String → Operation) (mark : Option Nat → Body) (unset : mark none = b)
    (accepted : ∀ name bb, b.named? name = some bb → ∃ s',
      s.exec (call name).perform = (.ok (), s') ∧ s.Rewrites (mark (some bb.uid)) s.nextUid s')
    {name? : Option String} (own : ∀ name ∈ name?, name ∈ b.blocks.map Block.name) :
    ∃ s', s.Completes (name?.toList.map call) s' ∧
      s.Rewrites (mark (name? >>= b.uidOf?)) s.nextUid s' := by
  cases name? with
  | none =>
    have nothing : mark (none >>= b.uidOf?) = b := unset
    exact ⟨s, .nil s, nothing.symm ▸ .refl h.body⟩
  | some name =>
    obtain ⟨bb, -, -, found⟩ := (h.wellFormed wf).named?_of_mem (own name rfl)
    obtain ⟨s', accepted, written⟩ := accepted name bb found
    have numbered : (some name >>= b.uidOf?) = some bb.uid := by
      rw [Option.bind_eq_bind, Option.bind_some, Body.uidOf?, found, Option.map_some]
    exact ⟨s', .single accepted, numbered.symm ▸ written⟩

theorem Store.Drafts.completes_entry (h : s.Drafts function b) (wf : s.WellFormed)
    (unset : b.entryUid? = none) {name? : Option String}
    (own : ∀ name ∈ name?, name ∈ b.blocks.map Block.name) :
    ∃ s', s.Completes (name?.toList.map (.buildEntry function)) s' ∧
      s.Rewrites { b with entryUid? := name? >>= b.uidOf? } s.nextUid s' :=
  h.completes_mark wf (.buildEntry function) (fun uid? ↦ { b with entryUid? := uid? })
    (by rw [← unset]) (fun _ _ found ↦ h.exec_entry wf found) own

theorem Store.Drafts.completes_exit (h : s.Drafts function b) (wf : s.WellFormed)
    (unset : b.exitUid? = none) {name? : Option String}
    (own : ∀ name ∈ name?, name ∈ b.blocks.map Block.name) :
    ∃ s', s.Completes (name?.toList.map (.buildExit function)) s' ∧
      s.Rewrites { b with exitUid? := name? >>= b.uidOf? } s.nextUid s' :=
  h.completes_mark wf (.buildExit function) (fun uid? ↦ { b with exitUid? := uid? })
    (by rw [← unset]) (fun _ _ found ↦ h.exec_exit wf found) own

/-! ## Functions -/

/-- The body of a described function before it is frozen: all edges, the entry and the exit. -/
def FunctionSpec.wired (spec : FunctionSpec) (b : Body) : Body :=
  let linked := spec.linkAll b
  { linked with
    entryUid? := spec.entry? >>= linked.uidOf?
    exitUid? := spec.exit? >>= linked.uidOf? }

/-- A function is there, though its body may not be frozen yet. -/
def Store.Sketches (s : Store) (f : Function) : Prop :=
  ∃ entry b, s.functions.get? f.uid = some entry ∧ entry.name = f.name ∧
    s.bodies.get? entry.body = some b ∧ b.freeze = f.body

/-- The body of a new function is filled as described. -/
theorem Store.Drafts.completes_body {spec : FunctionSpec} (described : spec.WellFormed)
    {next : Nat} (h : s.Drafts next (spec.bare next)) (wf : s.WellFormed)
    (numbered : s.nextUid = next + 2) :
    let made := BlockSpec.addAll spec.blocks (spec.bare next) (next + 2)
    ∃ s', s.Completes (spec.blocks.map (BlockSpec.operation next) ++
        (spec.pairs.map (fun p ↦ .buildEdge next p.1 p.2) ++
          (spec.entry?.toList.map (.buildEntry next) ++
            spec.exit?.toList.map (.buildExit next)))) s' ∧
      s.Rewrites (spec.wired made.1) made.2 s' := by
  intro made
  have declared := declares_empty (next + 1) (some ⟨next, spec.name⟩) (next + 2)
  have named : ∀ block ∈ spec.blocks, block.name ≠ "" := fun block here ↦
    (described.block block here).name_ne
  rw [← numbered] at declared
  obtain ⟨s₁, blocks, first⟩ := h.completes_blocks declared named
    (fun block here ↦ (described.block block here).opcode_ne) described.names_nodup
  rw [numbered] at first
  have frame₁ : made.1.frame = (spec.bare next).frame := BlockSpec.frame_addAll spec.blocks _ _
  have drafts₁ := h.of_frame first frame₁
  have wf₁ := blocks.wellFormed wf
  have names : made.1.blocks.map Block.name = spec.names :=
    map_name_of_outlines (described.declares next).outlines
  have own : ∀ p ∈ spec.pairs,
      p.1 ∈ made.1.blocks.map Block.name ∧ p.2 ∈ made.1.blocks.map Block.name := by
    rw [names]
    exact fun _ hp ↦ described.mem_names_of_pairs hp
  obtain ⟨s₂, edges, second⟩ := drafts₁.completes_edges wf₁ own
  have same : (spec.linkAll made.1).frame = made.1.frame :=
    FunctionSpec.frame_linkPairs spec.pairs made.1
  have drafts₂ := drafts₁.of_frame second same
  have wf₂ := edges.wellFormed wf₁
  -- Neither pass has set an entry or an exit.
  have frame₂ : (spec.linkAll made.1).frame = (next + 1, false, none, none) := same.trans frame₁
  obtain ⟨-, -, noEntry, noExit⟩ : _ ∧ _ ∧ _ ∧ _ := by
    simpa only [Body.frame, Prod.mk.injEq] using frame₂
  obtain ⟨-, listed, -⟩ := (drafts₁.wellFormed wf₁).foldl_linkNames own
  have names₂ : (spec.linkAll made.1).blocks.map Block.name = spec.names := by
    rw [FunctionSpec.linkAll, listed, names]
  obtain ⟨s₃, entry, third⟩ := drafts₂.completes_entry wf₂ noEntry (names₂.symm ▸ described.entry)
  have drafts₃ := drafts₂.rewrites third rfl drafts₂.mutable
  obtain ⟨s', exit, last⟩ := drafts₃.completes_exit (entry.wellFormed wf₂) noExit
    (names₂.symm ▸ described.exit)
  have next₂ : s₂.nextUid = made.2 := second.nextUid.trans first.nextUid
  rw [third.nextUid, next₂] at last
  refine ⟨s', blocks.append (edges.append (entry.append exit)), ?_⟩
  exact ((first.trans second (Body.uid_of_frame same)).trans third rfl).trans last rfl

/-- A described function is made as described, and everything made before stays as it was. -/
theorem Store.WellFormed.completes_function {spec : FunctionSpec} (described : spec.WellFormed)
    (wf : s.WellFormed) {bundle : Nat} {e : BundleEntry} (he : s.bundles.get? bundle = some e)
    (mutable : e.frozen = false) (kept : e.built = false)
    (new : spec.name ∉ s.functionNames e.functions) :
    ∃ s', s.Completes (spec.operations bundle s.nextUid) s' ∧
      s'.nextUid = (spec.build s.nextUid).2 ∧
      s'.bundles.get? bundle = some { e with functions := e.functions ++ [s.nextUid] } ∧
      s'.Sketches (spec.build s.nextUid).1 ∧ ∀ f, s.Sketches f → s'.Sketches f := by
  have made := wf.exec_buildFunction he mutable kept described.name_ne new
  set s₁ : Store := { s.spend.spend with
    bundles := s.bundles.insert bundle { e with functions := e.functions ++ [s.nextUid] }
    functions := s.functions.insert s.nextUid
      { name := spec.name, body := s.nextUid + 1, bundle? := some bundle }
    bodies := s.bodies.insert (s.nextUid + 1)
      { uid := s.nextUid + 1, owner? := some ⟨s.nextUid, spec.name⟩ } } with hs₁
  have first : s.Completes [.buildFunction bundle spec.name] s₁ := .single (exec_discard made)
  have found : s₁.functions.get? s.nextUid =
      some { name := spec.name, body := s.nextUid + 1, bundle? := some bundle } := by
    rw [hs₁, Assoc.get?_insert, if_pos rfl]
  have drafts : s₁.Drafts s.nextUid (spec.bare s.nextUid) := by
    refine ⟨⟨_, found, rfl⟩, ?_, rfl⟩
    rw [hs₁, FunctionSpec.bare, Assoc.get?_insert, if_pos rfl]
  obtain ⟨s', rest, written⟩ := drafts.completes_body described (first.wellFormed wf) rfl
  set declared := (BlockSpec.addAll spec.blocks (spec.bare s.nextUid) (s.nextUid + 2)).1
    with hdeclared
  have uid : (spec.wired declared).uid = s.nextUid + 1 := by
    have linked : (spec.linkAll declared).frame = declared.frame :=
      FunctionSpec.frame_linkPairs spec.pairs declared
    exact Body.uid_of_frame (linked.trans (BlockSpec.frame_addAll spec.blocks _ _))
  refine ⟨s', first.append rest, ?_, ?_, ?_, ?_⟩
  · rw [written.nextUid, FunctionSpec.build_eq]
  · rw [written.bundles, hs₁, Assoc.get?_insert, if_pos rfl]
  · rw [FunctionSpec.build_eq]
    refine ⟨_, spec.wired declared, written.functions ▸ found, rfl, ?_, rfl⟩
    rw [written.body, uid, if_pos rfl]
  · rintro f ⟨entry, b, hf, named, hb, frozen⟩
    refine ⟨entry, b, ?_, named, ?_, frozen⟩
    · have ne : s.nextUid ≠ f.uid := fun same ↦
        wf.numbered.unused_next.function (same ▸ Assoc.mem_keys_of_get? hf)
      rw [written.functions, hs₁, Assoc.get?_insert, if_neg ne, hf]
    · have unused : s.Unused (s.nextUid + 1) := wf.numbered.unused (Nat.le_succ _)
      have ne : s.nextUid + 1 ≠ entry.body := fun same ↦
        unused.body (same ▸ Assoc.mem_keys_of_get? hb)
      rw [written.body, uid, if_neg ne, hs₁, Assoc.get?_insert, if_neg ne, hb]

/-- Sketched functions are called as they will be. -/
theorem Store.functionNames_of_sketches {fs : List Function} (sketched : ∀ f ∈ fs, s.Sketches f) :
    s.functionNames (fs.map Function.uid) = fs.map Function.name := by
  induction fs with
  | nil => rfl
  | cons f fs ih =>
    obtain ⟨⟨entry, _, found, named, -⟩, later⟩ := List.forall_mem_cons.1 sketched
    have here : s.functionName? f.uid = some f.name := by
      rw [functionName?, found, Option.map_some, named]
    rw [List.map_cons, List.map_cons, ← ih later]
    exact List.filterMap_cons_some here

/-- Described functions are made one after the other, behind those that are there. -/
theorem Store.WellFormed.completes_functions {specs : List FunctionSpec}
    (described : ∀ spec ∈ specs, spec.WellFormed) (wf : s.WellFormed) {bundle : Nat}
    {e : BundleEntry} (mutable : e.frozen = false) (kept : e.built = false) {fs : List Function}
    (he : s.bundles.get? bundle = some { e with functions := fs.map Function.uid })
    (sketched : ∀ f ∈ fs, s.Sketches f)
    (nodup : (fs.map Function.name ++ specs.map FunctionSpec.name).Nodup) :
    let made := FunctionSpec.buildAll specs s.nextUid
    ∃ s', s.Completes (FunctionSpec.operationsAll bundle specs s.nextUid) s' ∧
      s'.nextUid = made.2 ∧
      s'.bundles.get? bundle = some { e with functions := (fs ++ made.1).map Function.uid } ∧
      ∀ f ∈ fs ++ made.1, s'.Sketches f := by
  induction specs generalizing s fs with
  | nil =>
    intro made
    have nothing : fs ++ made.1 = fs := List.append_nil fs
    rw [nothing]
    exact ⟨s, .nil s, rfl, he, sketched⟩
  | cons spec specs ih =>
    intro made
    obtain ⟨here, later⟩ := List.forall_mem_cons.1 described
    have new : spec.name ∉ s.functionNames (fs.map Function.uid) := by
      rw [functionNames_of_sketches sketched]
      exact fun old ↦ List.disjoint_of_nodup_append nodup old List.mem_cons_self
    obtain ⟨s₁, first, next, he₁, new, old⟩ := wf.completes_function here he mutable kept new
    have sketched₁ : ∀ f ∈ fs ++ [(spec.build s.nextUid).1], s₁.Sketches f := by
      intro f hf
      rcases List.mem_append.1 hf with before | last
      · exact old f (sketched f before)
      · exact List.mem_singleton.1 last ▸ new
    have he₁ : s₁.bundles.get? bundle = some { e with
        functions := (fs ++ [(spec.build s.nextUid).1]).map Function.uid } := by
      rw [he₁, List.map_append]
      rfl
    have nodup₁ : ((fs ++ [(spec.build s.nextUid).1]).map Function.name ++
        specs.map FunctionSpec.name).Nodup := by
      rw [List.map_append, List.append_assoc]
      exact nodup
    obtain ⟨s', rest, last⟩ := ih later (first.wellFormed wf) he₁ sketched₁ nodup₁
    rw [next] at rest last
    refine ⟨s', first.append rest, ?_⟩
    have split : fs ++ made.1 = fs ++ [(spec.build s.nextUid).1] ++
        (FunctionSpec.buildAll specs (spec.build s.nextUid).2).1 := List.append_cons _ _ _
    rw [split]
    exact last

/-! ## Bundles -/

/-- Once its body is frozen, a sketched function is as it was described. -/
theorem Store.Closes.function? {fs : List Nat} {s' : Store} (closes : s.Closes fs s')
    {f : Function} (sketched : s.Sketches f) (closed : f.uid ∈ fs) :
    s'.function? f.uid = some f := by
  obtain ⟨entry, b, found, named, hb, frozen⟩ := sketched
  have frozenBody : entry.body ∈ s.bodiesOf fs :=
    List.mem_filterMap.2 ⟨f.uid, closed, by rw [found, Option.map_some]⟩
  have body : s'.bodies.get? entry.body = some f.body := by
    rw [closes.body, hb, Option.map_some, if_pos frozenBody, frozen]
  simp [Store.function?, closes.functions, found, body, named]

theorem Store.filterMap_function? {fs : List Function}
    (found : ∀ f ∈ fs, s.function? f.uid = some f) :
    (fs.map Function.uid).filterMap s.function? = fs := by
  have each : ∀ f ∈ fs, (s.function? ∘ Function.uid) f = some f := found
  rw [List.filterMap_map, List.filterMap_congr each, List.filterMap_some]

namespace Document

variable {d : Document}

/-- **A bundle is made by the builders.** Every call for a well-formed document is accepted, and the
bundle that is handed out is the bundle of the document. -/
theorem exists_completes (h : d.WellFormed) (next : Nat) :
    ∃ s, Store.Completes { nextUid := next } (d.operations next) s ∧
      s.bundle? next = some (d.build next).1 ∧ s.nextUid = (d.build next).2 := by
  have wf := wellFormed_empty next
  let started : Store := { nextUid := next + 1, bundles := .insert ∅ next { name := d.name } }
  have first : Store.Completes { nextUid := next } [.startBundle d.name] started :=
    .single (exec_discard (a := next) rfl)
  have he : started.bundles.get? next =
      some { name := d.name, functions := ([] : List Function).map Function.uid } := by
    rw [Assoc.get?_insert, if_pos rfl]
    rfl
  obtain ⟨s, second, numbered, he, sketched⟩ := (first.wellFormed wf).completes_functions
    h.function (e := { name := d.name }) rfl rfl he nofun h.names_nodup
  have made := first.append second
  obtain ⟨s', run, -, -, he', closes⟩ :=
    exec_build (made.wellFormed wf) (made.sealed wf (sealed_empty next)) he true
  refine ⟨s', made.append (.single run), ?_, closes.nextUid.trans numbered⟩
  have functions := Store.filterMap_function? fun f hf ↦
    closes.function? (sketched f hf) (List.mem_map_of_mem hf)
  simp only [Store.bundle?, he']
  rw [Option.bind_eq_bind, Option.bind_some, functions]
  rfl

/-- The bundle of a document is one that operations lead to. -/
theorem reachable_build (h : d.WellFormed) (next : Nat) : (d.build next).1.Reachable := by
  obtain ⟨s, made, found, -⟩ := exists_completes h next
  refine ⟨next, d.operations next, next, ?_⟩
  rw [made.run_eq]
  exact found

theorem reachable_of_ofJson {j : Json} (read : ofJson j = .ok d) (next : Nat) :
    (d.build next).1.Reachable :=
  reachable_build (ofJson_eq_ok_iff.1 read).wellFormed next

end Document

end Flowcheck.Ir
