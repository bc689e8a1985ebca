import Flowcheck.Proofs.Ir.Invariant

/-!
# The calls behind a body

What a body has become is compared with what callers were told: the *calls* of a run are those that
have added a block or an edge and were not refused, in their order, each with the body it was made
on. They are read off the answers alone. A builder call that takes several elements makes one such
call after the other, up to the first that is refused.

A run makes its calls and, before, between and after them, only changes that leave blocks and edges
alone (`history_run`). So every body has the blocks that were added to it, in the order of the
calls, and an edge is recorded exactly if some call has added it (`records_run`). Refused calls and
repeated edges leave no trace.
-/

namespace Flowcheck.Ir

open Store

/-! ## Calls -/

/-- A call that has added something to a body: a block, with the number that it got, or an edge. -/
inductive Call where
  | block (body uid : Nat) (name : String)
  | edge (body src dst : Nat)
  deriving DecidableEq, Repr

namespace Store

/-- The call that adds a block, unless it is refused. -/
def blockCall (s : Store) (body : Nat) (name : String) : List Call :=
  match s.answer (addBlock body name) with
  | .ok uid => [.block body uid name]
  | .error _ => []

/-- The call that adds an edge, unless it is refused. -/
def edgeCall (s : Store) (body src dst : Nat) : List Call :=
  match s.answer (addEdge body src dst) with
  | .ok _ => [.edge body src dst]
  | .error _ => []

/-- The calls for the elements of a list in turn, up to the first that is refused. -/
def callsInTurn {α : Type} (m : α → StoreM Unit) (calls : Store → α → List Call) (s : Store) :
    List α → List Call
  | [] => []
  | a :: rest => calls s a ++
    match s.answer (m a) with
    | .ok _ => callsInTurn m calls (s.after (m a)) rest
    | .error _ => []

end Store

namespace FunctionBuilder

/-- The call by which a builder adds a block. Its statements do not matter, accepted or not. -/
def blockCall (function : Nat) (s : Store) (name : String) : List Call :=
  match s.functions.get? function with
  | some f => s.blockCall f.body name
  | none => []

/-- The call by which a builder adds an edge between two names. -/
def edgeCall (function : Nat) (s : Store) (ends : String × String) : List Call :=
  match s.functions.get? function with
  | some f =>
    match s.answer (resolve function ends.1), s.answer (resolve function ends.2) with
    | .ok src, .ok dst => s.edgeCall f.body src dst
    | _, _ => []
  | none => []

end FunctionBuilder

/-- The calls that an operation makes. -/
def Operation.calls (s : Store) : Operation → List Call
  | addBlock body name => s.blockCall body name
  | addEdge body src dst => s.edgeCall body src dst
  | buildBlock function name _ => FunctionBuilder.blockCall function s name
  | buildBlocks function names =>
    callsInTurn (FunctionBuilder.block function · []) (FunctionBuilder.blockCall function) s names
  | buildEdge function src dst => FunctionBuilder.edgeCall function s (src, dst)
  | buildEdges function pairs =>
    callsInTurn (fun p ↦ FunctionBuilder.edge function p.1 p.2)
      (FunctionBuilder.edgeCall function) s pairs
  | _ => []

/-- The calls that a sequence of operations makes. -/
def Store.calls (s : Store) : List Operation → List Call
  | [] => []
  | op :: ops => op.calls s ++ (s.after op.perform).calls ops

/-! ## Histories -/

/-- Whether a change adds a block or an edge to a body. -/
def Change.growsBody : Change → Bool
  | .addBlock _ _ | .edit _ (.edge _ _) => true
  | _ => false

/-- A change that adds neither. -/
def Change.Quiet (c : Change) : Prop := c.growsBody = false

/-- A chain of changes and the calls that were made on the way. -/
inductive History : Store → List Call → Store → Prop where
  | nil {s : Store} : History s [] s
  | quiet {s s' s'' : Store} {c : Change} {calls : List Call} (step : Step s c s') (quiet : c.Quiet)
      (rest : History s' calls s'') : History s calls s''
  | block {s s' s'' : Store} {body : Nat} {name : String} {calls : List Call}
      (step : Step s (.addBlock body name) s') (rest : History s' calls s'') :
      History s (.block body s.nextUid name :: calls) s''
  | edge {s s' s'' : Store} {body src dst : Nat} {calls : List Call}
      (step : Step s (.edit body (.edge src dst)) s') (rest : History s' calls s'') :
      History s (.edge body src dst :: calls) s''

variable {s s' s'' : Store} {c : Change} {calls calls' : List Call}

theorem History.append (h : History s calls s') (h' : History s' calls' s'') :
    History s (calls ++ calls') s'' := by
  induction h with
  | nil => exact h'
  | quiet step quiet _ ih => exact .quiet step quiet (ih h')
  | block step _ ih => exact .block step (ih h')
  | edge step _ ih => exact .edge step (ih h')

namespace Store

variable {α β : Type}

theorem after_demand_some {uid : Nat} {find : Store → Option β} {x : β} (hx : find s = some x)
    (f : β → StoreM α) : s.after (demand uid find >>= f) = s.after (f x) := by
  rw [after, exec_demand_some hx, after]

theorem after_demand_none {uid : Nat} {find : Store → Option β} (hx : find s = none)
    (f : β → StoreM α) : s.after (demand uid find >>= f) = s := by
  rw [after, exec_demand_none hx]

theorem history_of_trace {cs : List Change} (trace : Trace s cs s') (quiet : ∀ c ∈ cs, c.Quiet) :
    History s [] s' := by
  induction trace with
  | nil => exact .nil
  | cons first _ ih =>
    obtain ⟨hc, hcs⟩ := List.forall_mem_cons.1 quiet
    exact .quiet first hc (ih hcs)

theorem history_of_moves {m : StoreM α} (quiet : Moves Change.Quiet m) (s : Store) :
    History s [] (s.after m) := by
  obtain ⟨cs, trace, hcs⟩ := quiet s
  exact history_of_trace trace hcs

theorem quiet_of_ends {m : StoreM α} {a : Store → α} {c : Change} (h : ∀ s, Ends s m (a s) c)
    (hc : c.Quiet) : Moves Change.Quiet m :=
  moves_of_ends h hc rfl

/-- An operation that may be refused with a number spent. -/
theorem history_of_ends {m : StoreM α} {a : α} (h : Ends s m a c) {calls : List Call}
    (done : s.answer m = .ok a → Step s c (s.after m) → History s calls (s.after m))
    (refused : ∀ e, s.answer m = .error e → calls = []) : History s calls (s.after m) := by
  rcases h with ⟨answered, step⟩ | ⟨e, failed, same | spent⟩
  · exact done answered step
  · rw [refused e failed, same]
    exact .nil
  · rw [refused e failed, spent]
    exact .quiet .spend rfl .nil

theorem history_addBlock (s : Store) (body : Nat) (name : String) :
    History s (s.blockCall body name) (s.after (addBlock body name)) := by
  refine history_of_ends (ends_addBlock body name) (fun answered step ↦ ?_) fun e failed ↦ ?_
  · rw [blockCall, answered]
    exact .block step .nil
  · rw [blockCall, failed]

theorem history_addEdge (s : Store) (body src dst : Nat) :
    History s (s.edgeCall body src dst) (s.after (addEdge body src dst)) := by
  refine history_of_ends (ends_addEdge body src dst) (fun answered step ↦ ?_) fun e failed ↦ ?_
  · rw [edgeCall, answered]
    exact .edge step .nil
  · rw [edgeCall, failed]

theorem history_inTurn {m : α → StoreM Unit} {calls : Store → α → List Call}
    (each : ∀ s a, History s (calls s a) (s.after (m a))) (s : Store) (as : List α) :
    History s (callsInTurn m calls s as) (s.after (as.forM m)) := by
  induction as generalizing s with
  | nil => exact .nil
  | cons a as ih =>
    have first := each s a
    show History s _ (s.after (m a >>= fun _ ↦ as.forM m))
    rw [callsInTurn]
    cases answered : s.answer (m a) with
    | ok _ =>
      rw [after_bind_of_ok answered]
      exact first.append (ih (s.after (m a)))
    | error _ =>
      rw [after_bind_of_error answered, List.append_nil]
      exact first

end Store

/-! ## Calls of builders -/

namespace FunctionBuilder

/-- A name is resolved without any change: the chain that it makes has no members. -/
theorem after_resolve (s : Store) (function : Nat) (name : String) :
    s.after (resolve function name) = s := by
  obtain ⟨cs, trace, none⟩ := moves_resolve (p := fun _ ↦ False) function name s
  generalize s.after (resolve function name) = s' at trace
  cases trace with
  | nil => rfl
  | cons _ _ => exact absurd (none _ List.mem_cons_self) not_false

theorem history_block (function : Nat) (name : String) (statements : List (String × List String))
    (s : Store) :
    History s (blockCall function s name) (s.after (block function name statements)) := by
  rw [blockCall, block, getFunction]
  cases hf : s.functions.get? function with
  | none =>
    rw [after_demand_none hf]
    exact .nil
  | some f =>
    rw [after_demand_some hf]
    have first := history_addBlock s f.body name
    cases answered : s.answer (addBlock f.body name) with
    | error _ =>
      rw [after_bind_of_error answered]
      exact first
    | ok bb =>
      -- A statement that is refused does not take the block back.
      have statement (p : String × List String) :
          Moves Change.Quiet (do addStatement bb (← newStatement p.1 p.2)) :=
        .bind (quiet_of_ends (fun _ ↦ ends_newStatement p.1 p.2) rfl) fun st ↦
          quiet_of_ends (fun _ ↦ ends_addStatement bb st) rfl
      have rest := history_of_moves (.forM statement statements) (s.after (addBlock f.body name))
      rw [after_bind_of_ok answered]
      have both := first.append rest
      rwa [List.append_nil] at both

theorem history_edge (function : Nat) (s : Store) (ends : String × String) :
    History s (edgeCall function s ends) (s.after (edge function ends.1 ends.2)) := by
  rw [edgeCall, edge, getFunction]
  cases hf : s.functions.get? function with
  | none =>
    rw [after_demand_none hf]
    exact .nil
  | some f =>
    rw [after_demand_some hf]
    -- Names are resolved without any change, so the edge is added to the store that was found.
    cases hs : s.answer (resolve function ends.1) with
    | error _ =>
      rw [after_bind_of_error hs, after_resolve]
      exact .nil
    | ok src =>
      rw [after_bind_of_ok hs, after_resolve]
      cases hd : s.answer (resolve function ends.2) with
      | error _ =>
        rw [after_bind_of_error hd, after_resolve]
        exact .nil
      | ok dst =>
        rw [after_bind_of_ok hd, after_resolve]
        exact history_addEdge s f.body src dst

end FunctionBuilder

/-! ## Operations -/

/-- **An operation makes its calls and changes nothing else about blocks and edges.** -/
theorem history_perform (op : Operation) (s : Store) :
    History s (op.calls s) (s.after op.perform) := by
  have quiet {m : StoreM Unit} (hm : Moves Change.Quiet m) : History s [] (s.after m) :=
    history_of_moves hm s
  cases op with
  | newBundle name => exact quiet (.discard (quiet_of_ends (fun _ ↦ ends_newBundle name) rfl))
  | newBody => exact quiet (.discard (quiet_of_ends (fun _ ↦ ends_newBody) rfl))
  | newBlock body name =>
    exact quiet (.discard (quiet_of_ends (fun _ ↦ ends_newBlock body name) rfl))
  | newFunction name body? =>
    cases body? with
    | some body => exact quiet (.discard (quiet_of_ends (fun _ ↦ ends_newFunction name body) rfl))
    | none => exact quiet (.discard (quiet_of_ends (fun _ ↦ ends_newFunctionAndBody name) rfl))
  | newStatement opcode operands =>
    exact quiet (.discard (quiet_of_ends (fun _ ↦ ends_newStatement opcode operands) rfl))
  | addFunction bundle function =>
    exact quiet (quiet_of_ends (fun _ ↦ ends_addFunction bundle function) rfl)
  | addBlock body name =>
    rw [Operation.perform, after_discard]
    exact history_addBlock s body name
  | addStatement block statement =>
    exact quiet (quiet_of_ends (fun _ ↦ ends_addStatement block statement) rfl)
  | addEdge body src dst => exact history_addEdge s body src dst
  | setEntry body block => exact quiet (quiet_of_ends (fun _ ↦ ends_setEntry body block) rfl)
  | setExit body block => exact quiet (quiet_of_ends (fun _ ↦ ends_setExit body block) rfl)
  | freezeBody body => exact quiet (quiet_of_ends (fun _ ↦ ends_freezeBody body) rfl)
  | freezeBundle bundle => exact quiet (moves_freezeBundle bundle rfl (fun _ ↦ rfl) rfl)
  | validate bundle => exact quiet (moves_validate bundle)
  | buildBlock function name statements =>
    exact FunctionBuilder.history_block function name statements s
  | buildBlocks function names =>
    exact history_inTurn (fun s name ↦ FunctionBuilder.history_block function name [] s) s names
  | buildStatement function name opcode operands =>
    exact quiet (FunctionBuilder.moves_statement function name opcode operands rfl (fun _ _ ↦ rfl)
      rfl)
  | buildEdge function src dst => exact FunctionBuilder.history_edge function s (src, dst)
  | buildEdges function pairs =>
    exact history_inTurn (FunctionBuilder.history_edge function) s pairs
  | buildEntry function name =>
    exact quiet (FunctionBuilder.moves_entry function name (fun _ _ ↦ rfl) rfl)
  | buildExit function name =>
    exact quiet (FunctionBuilder.moves_exit function name (fun _ _ ↦ rfl) rfl)
  | startBundle name => exact quiet (.discard (quiet_of_ends (fun _ ↦ ends_newBundle name) rfl))
  | buildFunction bundle name =>
    exact quiet (.discard (BundleBuilder.moves_function bundle name rfl (fun _ ↦ rfl) rfl))
  | buildBundle bundle check =>
    exact quiet (BundleBuilder.moves_build bundle check rfl (fun _ ↦ rfl) rfl rfl)

theorem history_run (ops : List Operation) (s : Store) : History s (s.calls ops) (s.run ops) := by
  induction ops generalizing s with
  | nil => exact .nil
  | cons op ops ih => exact (history_perform op s).append (ih (s.after op.perform))

/-! ## Blocks and edges -/

/-- The numbers and names of the blocks, and the recorded targets of each number. -/
structure Shape where
  blocks : List (Nat × String) := []
  targets : Nat → List Nat := fun _ ↦ []

/-- What calls could have added to a body. -/
def Body.shape (b : Body) : Shape :=
  ⟨b.blocks.map fun bb ↦ (bb.uid, bb.name), Body.recorded b.succ⟩

/-- The shape of the body with a number; an empty one if there is none. -/
def Store.shape (s : Store) (body : Nat) : Shape := ((s.bodies.get? body).map Body.shape).getD {}

theorem Store.shape_eq {body : Nat} {b : Body} (hb : s.bodies.get? body = some b) :
    s.shape body = b.shape := by
  rw [shape, hb]
  rfl

theorem Store.shape_insert {body : Nat} {b : Body} (hs : s'.bodies = s.bodies.insert body b)
    (k : Nat) : s'.shape k = if body = k then b.shape else s.shape k := by
  rw [shape, shape, hs, Assoc.get?_insert]
  split <;> rfl

/-- A body that is written with the shape that it had. -/
theorem Store.shape_insert_same {body : Nat} {b : Body} (hs : s'.bodies = s.bodies.insert body b)
    (same : b.shape = s.shape body) (k : Nat) : s'.shape k = s.shape k := by
  rw [shape, hs]
  exact Assoc.read_insert_same (fun b? ↦ (b?.map Body.shape).getD {}) same k

theorem Body.shape_pushStatement (b : Body) (block : Nat) (st : Statement) :
    (b.pushStatement block st).shape = b.shape := by
  simp [Body.shape, Body.pushStatement, appendStatement, Function.comp_def]

theorem Body.Edits.shape {b b' : Body} {e : Body.Edit} (h : b.Edits e b')
    (quiet : ∀ src dst, e ≠ .edge src dst) : b'.shape = b.shape := by
  cases h with
  | edge _ _ _ => exact absurd rfl (quiet _ _)
  | entry _ _ => rfl
  | exit _ _ => rfl
  | freeze => rfl

/-- A body that does not exist yet has no shape either. -/
theorem Store.WellFormed.shape_fresh (h : s.WellFormed) {uid : Nat} (hu : s.nextUid ≤ uid) :
    s.shape uid = {} := by
  rw [shape, Assoc.get?_eq_none_iff.2 (h.numbered.unused hu).body]
  rfl

theorem Store.WellFormed.shape_uid (h : s.WellFormed) {body : Nat} {b : Body}
    (hb : s.bodies.get? body = some b) : s.shape b.uid = b.shape := by
  rw [h.uid_eq body b hb, shape_eq hb]

/-- Quiet changes leave the shape of every body as it is. -/
theorem Step.shape_of_quiet (h : s.WellFormed) (step : Step s c s') (quiet : c.Quiet) (k : Nat) :
    s'.shape k = s.shape k := by
  cases step with
  | newBody =>
    refine shape_insert_same rfl ?_ k
    exact (h.shape_fresh (Nat.le_refl _)).symm
  | newFunction _ hb _ =>
    refine shape_insert_same rfl ?_ k
    exact (h.shape_uid hb).symm
  | newFunctionAndBody _ =>
    refine shape_insert_same rfl ?_ k
    exact (h.shape_fresh (Nat.le_succ _)).symm
  | addBlock _ _ _ _ => cases quiet
  | addStatement _ hb _ _ _ =>
    exact shape_insert_same rfl ((Body.shape_pushStatement _ _ _).trans (h.shape_uid hb).symm) k
  | @edit body b b' e hb he =>
    have notEdge (src dst : Nat) : e ≠ .edge src dst := by
      rintro rfl
      cases quiet
    refine shape_insert_same rfl ?_ k
    rw [he.shape notEdge, he.uid_eq, h.shape_uid hb]
  | spend | newBundle | newBlock | newStatement | addFunction | freezeBundle | handOut => rfl

/-- A new block comes to the end and has no targets. -/
theorem Step.shape_addBlock (h : s.WellFormed) {body : Nat} {name : String}
    (step : Step s (.addBlock body name) s') (k : Nat) :
    (s'.shape k).blocks =
        (s.shape k).blocks ++ (if body = k then [(s.nextUid, name)] else []) ∧
      (s'.shape k).targets = (s.shape k).targets := by
  cases step with
  | @addBlock _ b _ hb mutable hn new =>
    have key : s.nextUid ∉ b.succ.keys := by
      rw [(h.body body b hb).succ_keys]
      exact h.next_notMem_uids hb
    rw [shape_insert rfl, h.uid_eq body b hb]
    by_cases hk : body = k
    · subst hk
      rw [if_pos rfl, if_pos rfl, shape_eq hb]
      refine ⟨List.map_append, funext ?_⟩
      exact Body.recorded_insert_nil key
    · rw [if_neg hk, if_neg hk, List.append_nil]
      exact ⟨rfl, rfl⟩

/-- A new edge is one more target of one number. -/
theorem Step.shape_edge (h : s.WellFormed) {body src dst : Nat}
    (step : Step s (.edit body (.edge src dst)) s') (k : Nat) :
    (s'.shape k).blocks = (s.shape k).blocks ∧
      ∀ u v, v ∈ (s'.shape k).targets u ↔
        v ∈ (s.shape k).targets u ∨ (body = k ∧ src = u ∧ v = dst) := by
  cases step with
  | @edit _ b b' _ hb he =>
    have uid : b'.uid = body := he.uid_eq.trans (h.uid_eq body b hb)
    rw [shape_insert rfl, uid]
    by_cases hk : body = k
    · subst hk
      rw [if_pos rfl, shape_eq hb]
      cases he with
      | edge mutable own _ =>
        have key : src ∈ b.succ.keys := by rwa [(h.body body b hb).succ_keys]
        refine ⟨rfl, fun u v ↦ ?_⟩
        rw [and_iff_right rfl]
        exact Body.mem_recorded_modify_adjoin key dst u v
    · rw [if_neg hk]
      exact ⟨rfl, fun u v ↦ (or_iff_left fun new ↦ hk new.1).symm⟩

/-! ## Records -/

/-- The block that a call has added to a body. -/
def Call.block? (body : Nat) : Call → Option (Nat × String)
  | .block body' uid name => if body' = body then some (uid, name) else none
  | .edge _ _ _ => none

/-- The blocks that calls have added to a body, in their order. -/
def addedBlocks (calls : List Call) (body : Nat) : List (Nat × String) :=
  calls.filterMap (Call.block? body)

theorem addedBlocks_append (calls calls' : List Call) (body : Nat) :
    addedBlocks (calls ++ calls') body = addedBlocks calls body ++ addedBlocks calls' body :=
  List.filterMap_append

theorem addedBlocks_block (body' uid : Nat) (name : String) (body : Nat) :
    addedBlocks [.block body' uid name] body = if body' = body then [(uid, name)] else [] := by
  by_cases h : body' = body <;> simp [addedBlocks, Call.block?, h]

/-- The bodies of a store are what calls have made of them. -/
structure Store.Records (s : Store) (calls : List Call) : Prop where
  blocks : ∀ body, (s.shape body).blocks = addedBlocks calls body
  edge : ∀ body src dst, dst ∈ (s.shape body).targets src ↔ .edge body src dst ∈ calls

theorem Store.records_empty (nextUid : Nat) : Records { nextUid } [] where
  blocks _ := rfl
  edge _ _ _ := by simp [shape]

/-- **Whatever a store records, it records one call more after each.** -/
theorem History.records (history : History s calls s') (h : s.WellFormed) {before : List Call}
    (r : s.Records before) : s'.Records (before ++ calls) := by
  -- A chain is followed from its start, where the store is still known to be well formed.
  induction history generalizing before with
  | nil => rwa [List.append_nil]
  | quiet step quiet _ ih =>
    have same := step.shape_of_quiet h quiet
    refine ih (step.wellFormed h) ⟨fun body ↦ ?_, fun body src dst ↦ ?_⟩
    · rw [same, r.blocks]
    · rw [same, r.edge]
  | block step _ ih =>
    have new := step.shape_addBlock h
    rw [List.append_cons]
    refine ih (step.wellFormed h) ⟨fun body ↦ ?_, fun body src dst ↦ ?_⟩
    · rw [(new body).1, r.blocks, addedBlocks_append, addedBlocks_block]
    · rw [(new body).2, r.edge]
      simp
  | edge step _ ih =>
    have new := step.shape_edge h
    rw [List.append_cons]
    refine ih (step.wellFormed h) ⟨fun body ↦ ?_, fun body src dst ↦ ?_⟩
    · rw [(new body).1, r.blocks, addedBlocks_append]
      exact (List.append_nil _).symm
    · rw [(new body).2, r.edge]
      simp [eq_comm]

/-- **After a run every body is what its calls have made of it.** -/
theorem records_run (nextUid : Nat) (ops : List Operation) :
    (Store.run { nextUid } ops).Records (Store.calls { nextUid } ops) :=
  (history_run ops { nextUid }).records (wellFormed_empty nextUid) (records_empty nextUid)

end Flowcheck.Ir
