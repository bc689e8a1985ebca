import Flowcheck.Proofs.Ir.Sealed
import Mathlib.Order.Defs.Unbundled

/-!
# What a refused operation leaves behind

An operation takes numbers before it looks at its arguments, and some operations make one node to
put it into another. So a refused operation may leave numbers used up and even nodes that nobody was
given, but nothing that was there before is changed (`Retains`).

The operations with several elements are the exception: they keep the elements before the one that
is refused. What they leave is then what the same operation leaves when it is given only those
(`Operation.Leaves`).
-/

namespace Flowcheck.Ir

open Store

/-! ## Stores with the same old nodes -/

/-- The entries of a table that have a number below a bound are the same in another table. -/
def SameBelow {ν : Type} (n : Nat) (m m' : Assoc Nat ν) : Prop := ∀ k < n, m'.get? k = m.get? k

namespace SameBelow

variable {ν : Type} {n n' : Nat} {m m' m'' : Assoc Nat ν}

theorem refl (n : Nat) (m : Assoc Nat ν) : SameBelow n m m := fun _ _ ↦ rfl

theorem trans (h : SameBelow n m m') (h' : SameBelow n' m' m'') (le : n ≤ n') :
    SameBelow n m m'' :=
  fun k lt ↦ (h' k (Nat.lt_of_lt_of_le lt le)).trans (h k lt)

theorem insert {k : Nat} (le : n ≤ k) (m : Assoc Nat ν) (v : ν) : SameBelow n m (m.insert k v) := by
  intro k' lt
  rw [Assoc.get?_insert, if_neg (by omega)]

end SameBelow

/-- All that a store holds about the nodes made so far is in a later store as well. -/
structure Store.Retains (s s' : Store) : Prop where
  nextUid_le : s.nextUid ≤ s'.nextUid
  bundles : SameBelow s.nextUid s.bundles s'.bundles
  functions : SameBelow s.nextUid s.functions s'.functions
  bodies : SameBelow s.nextUid s.bodies s'.bodies
  homes : SameBelow s.nextUid s.homes s'.homes
  strays : s'.strays = s.strays
  statements : SameBelow s.nextUid s.statements s'.statements

namespace Store.Retains

variable {s s' s'' : Store}

theorem refl (s : Store) : s.Retains s :=
  ⟨Nat.le_refl _, .refl _ _, .refl _ _, .refl _ _, .refl _ _, rfl, .refl _ _⟩

theorem trans (h : s.Retains s') (h' : s'.Retains s'') : s.Retains s'' where
  nextUid_le := Nat.le_trans h.nextUid_le h'.nextUid_le
  bundles := h.bundles.trans h'.bundles h.nextUid_le
  functions := h.functions.trans h'.functions h.nextUid_le
  bodies := h.bodies.trans h'.bodies h.nextUid_le
  homes := h.homes.trans h'.homes h.nextUid_le
  strays := h'.strays.trans h.strays
  statements := h.statements.trans h'.statements h.nextUid_le

instance : IsPreorder Store Store.Retains where
  refl := refl
  trans _ _ _ := trans

theorem spend (s : Store) : s.Retains s.spend :=
  ⟨Nat.le_succ _, .refl _ _, .refl _ _, .refl _ _, .refl _ _, rfl, .refl _ _⟩

/-- A function is made with its body, both under numbers that no node has. -/
theorem newFunctionAndBody {name : String} (step : Step s (.newFunctionAndBody name) s') :
    s.Retains s' := by
  obtain ⟨⟩ := step
  exact ⟨Nat.le_add_right _ 2, .refl _ _, .insert (Nat.le_refl _) _ _, .insert (Nat.le_succ _) _ _,
    .refl _ _, rfl, .refl _ _⟩

theorem newStatement {opcode : String} {operands : List String}
    (step : Step s (.newStatement opcode operands) s') : s.Retains s' := by
  obtain ⟨⟩ := step
  exact ⟨Nat.le_succ _, .refl _ _, .refl _ _, .refl _ _, .refl _ _, rfl,
    .insert (Nat.le_refl _) _ _⟩

end Store.Retains

/-! ### Nodes -/

theorem Store.Numbered.lt_of_used {s : Store} (h : s.Numbered) {uid : Nat} (used : ¬ s.Unused uid) :
    uid < s.nextUid :=
  Nat.lt_of_not_le (mt h.unused used)

/-- What can be seen of the nodes made so far is the same in a later store, and so is all that is
held about them. -/
structure Store.Spares (s s' : Store) : Prop extends s.Retains s' where
  node : ∀ uid < s.nextUid, s'.node? uid = s.node? uid
  owner : ∀ uid < s.nextUid, s'.owner? uid = s.owner? uid

namespace Store.Retains

variable {s s' : Store} {uid : Nat}

-- A well-formed store has only numbers in its entries that were given away, so whatever is looked
-- up on the way to a node is retained as well.

theorem block?_eq (h : s.Retains s') (wf : s.WellFormed) (lt : uid < s.nextUid) :
    s'.block? uid = s.block? uid := by
  simp only [block?, Option.bind_eq_bind]
  rw [h.homes uid lt, h.strays]
  refine Option.bind_congr fun body home ↦ ?_
  have key := (wf.housed.home uid body home).1
  rw [h.bodies body (wf.numbered.lt_of_used fun unused ↦ unused.body key)]

theorem function?_eq (h : s.Retains s') (wf : s.WellFormed) (lt : uid < s.nextUid) :
    s'.function? uid = s.function? uid := by
  simp only [function?, Option.bind_eq_bind]
  rw [h.functions uid lt]
  refine Option.bind_congr fun f hf ↦ ?_
  obtain ⟨b, hb, -⟩ := Option.bind_eq_some_iff.1 (wf.owned.body uid f hf)
  have key := Assoc.mem_keys_of_get? hb
  rw [h.bodies f.body (wf.numbered.lt_of_used fun unused ↦ unused.body key)]

theorem bundle?_eq (h : s.Retains s') (wf : s.WellFormed) (lt : uid < s.nextUid) :
    s'.bundle? uid = s.bundle? uid := by
  simp only [bundle?, Option.bind_eq_bind]
  rw [h.bundles uid lt]
  refine Option.bind_congr fun b hb ↦ ?_
  have functions : b.functions.filterMap s'.function? = b.functions.filterMap s.function? := by
    refine List.filterMap_congr fun f hf ↦ ?_
    have key := wf.listed.exist uid b hb f hf
    exact h.function?_eq wf (wf.numbered.lt_of_used fun unused ↦ unused.function key)
  rw [functions]

theorem spares (h : s.Retains s') (wf : s.WellFormed) : s.Spares s' where
  toRetains := h
  node uid lt := by
    rw [node?, node?, h.bundle?_eq wf lt, h.function?_eq wf lt, h.bodies uid lt,
      h.block?_eq wf lt, h.statements uid lt]
  owner uid lt := by
    rw [owner?, owner?, h.functions uid lt, h.bodies uid lt, h.homes uid lt, h.statements uid lt]

end Store.Retains

/-! ## Refusals -/

namespace Store

variable {α β : Type} {R : Store → Store → Prop} {s : Store}

theorem answer_bind_of_ok {m : StoreM α} {a : α} (h : s.answer m = .ok a) (f : α → StoreM β) :
    s.answer (m >>= f) = (s.after m).answer (f a) := by
  have run : s.exec m = (.ok a, s.after m) := Prod.ext h rfl
  rw [answer, exec_bind, run]
  rfl

theorem answer_bind_of_error {m : StoreM α} {e : Error} (h : s.answer m = .error e)
    (f : α → StoreM β) : s.answer (m >>= f) = .error e := by
  have run : s.exec m = (.error e, s.after m) := Prod.ext h rfl
  rw [answer, exec_bind, run]

/-- Whatever an operation answers, the stores before and after it are related. -/
def Quiet (R : Store → Store → Prop) (m : StoreM α) : Prop := ∀ s : Store, R s (s.after m)

/-- If an operation is refused, the stores before and after it are related. -/
def OnRefusal (R : Store → Store → Prop) (m : StoreM α) : Prop :=
  ∀ (s : Store) (e : Error), s.answer m = .error e → R s (s.after m)

namespace OnRefusal

theorem of_quiet {m : StoreM α} (h : Quiet R m) : OnRefusal R m := fun s _ _ ↦ h s

/-- An answer that is given at the end is never refused. -/
theorem answering {m : StoreM α} (hm : OnRefusal R m) (f : α → β) :
    OnRefusal R (m >>= fun a ↦ Pure.pure (f a)) := by
  intro s e refused
  match h : s.answer m with
  | .error e => exact after_bind_of_error h _ ▸ hm s e h
  | .ok a =>
    rw [answer_bind_of_ok h] at refused
    nomatch refused

end OnRefusal

section Preorder

variable [IsPreorder Store R]

namespace Quiet

theorem still {m : StoreM α} (h : ∀ s : Store, s.after m = s) : Quiet R m := fun s ↦ by
  rw [h]
  exact refl_of R s

theorem pure (a : α) : Quiet R (pure a) := still fun _ ↦ rfl

theorem demand (uid : Nat) (find : Store → Option α) : Quiet R (demand uid find) := by
  refine still fun s ↦ ?_
  rw [after, exec_demand]
  cases find s <;> rfl

theorem lift (x : Except Error α) : Quiet R (liftM x) := by
  refine still fun s ↦ ?_
  rw [after, exec_lift]

theorem bind {m : StoreM α} {f : α → StoreM β} (hm : Quiet R m) (hf : ∀ a, Quiet R (f a)) :
    Quiet R (m >>= f) := by
  intro s
  match h : s.answer m with
  | .error e => exact after_bind_of_error h f ▸ hm s
  | .ok a => exact after_bind_of_ok h f ▸ trans_of R (hm s) (hf a _)

theorem guard {p : Prop} [Decidable p] {e : Error} {f : β → StoreM α} {m : StoreM α}
    (hm : Quiet R m) : Quiet R (if p then throw e >>= f else m) := by
  by_cases hp : p
  · rw [if_pos hp]
    exact still fun _ ↦ rfl
  · rw [if_neg hp]
    exact hm

end Quiet

namespace OnRefusal

theorem of_does {m : StoreM α} {a : Store → α} {c : Change} (h : ∀ s, Does s s m (a s) c) :
    OnRefusal R m := by
  intro s e refused
  rcases h s with ⟨done, -⟩ | ⟨_, -, same⟩
  · rw [done] at refused
    nomatch refused
  · exact same.symm ▸ refl_of R s

/-- What is done before an operation counts, even if it is the operation that is refused. -/
theorem bind {m : StoreM α} {f : α → StoreM β} (hm : Quiet R m) (hf : ∀ a, OnRefusal R (f a)) :
    OnRefusal R (m >>= f) := by
  intro s e refused
  match h : s.answer m with
  | .error e => exact after_bind_of_error h f ▸ hm s
  | .ok a =>
    rw [answer_bind_of_ok h] at refused
    exact after_bind_of_ok h f ▸ trans_of R (hm s) (hf a _ e refused)

theorem guard {p : Prop} [Decidable p] {e : Error} {f : β → StoreM α} {m : StoreM α}
    (hm : OnRefusal R m) : OnRefusal R (if p then throw e >>= f else m) := by
  by_cases hp : p
  · rw [if_pos hp]
    exact .of_quiet (.still fun _ ↦ rfl)
  · rw [if_neg hp]
    exact hm

end OnRefusal

end Preorder

theorem OnRefusal.of_ends {m : StoreM α} {a : Store → α} {c : Change}
    (h : ∀ s, Ends s m (a s) c) : OnRefusal Retains m := by
  intro s e refused
  rcases h s with ⟨done, -⟩ | ⟨_, -, same | spent⟩
  · rw [done] at refused
    nomatch refused
  · exact same.symm ▸ .refl s
  · exact spent.symm ▸ .spend s

/-- A node that is made and not given to anybody. -/
theorem Quiet.of_ends {m : StoreM α} {a : Store → α} {c : Change} (h : ∀ s, Ends s m (a s) c)
    (made : ∀ {s s'}, Step s c s' → s.Retains s') : Quiet Retains m := by
  intro s
  rcases h s with ⟨-, step⟩ | ⟨_, -, same | spent⟩
  · exact made step
  · exact same.symm ▸ .refl s
  · exact spent.symm ▸ .spend s

/-! ## Single elements -/

theorem onRefusal_newFunction (name : String) (body? : Option Nat) :
    OnRefusal Retains (newFunction name body?) :=
  match body? with
  | some body => .of_ends fun _ ↦ ends_newFunction name body
  | none => .of_ends fun _ ↦ ends_newFunctionAndBody name

section Builders

variable [IsPreorder Store R]

theorem quiet_resolve (function : Nat) (name : String) :
    Quiet R (FunctionBuilder.resolve function name) := by
  refine .bind (.demand _ _) fun f ↦ .bind (.demand _ _) fun b ↦ .guard ?_
  exact .bind (.lift _) fun bb ↦ .pure _

theorem onRefusal_buildEdge (function : Nat) (src dst : String) :
    OnRefusal R (FunctionBuilder.edge function src dst) := by
  refine .bind (.demand _ _) fun f ↦ .bind (quiet_resolve function src) fun s ↦ ?_
  exact .bind (quiet_resolve function dst) fun d ↦ .of_does fun _ ↦ does_addEdge f.body s d

/-- Without statements a block is refused as a whole. -/
theorem onRefusal_buildEmptyBlock (function : Nat) (name : String) :
    OnRefusal R (FunctionBuilder.block function name []) :=
  .bind (.demand _ _) fun f ↦
    (OnRefusal.of_does fun _ ↦ does_addBlock f.body name).answering fun _ ↦ ()

end Builders

theorem onRefusal_buildStatement (function : Nat) (name opcode : String) (operands : List String) :
    OnRefusal Retains (FunctionBuilder.statement function name opcode operands) := by
  refine .bind (quiet_resolve function name) fun bb ↦ ?_
  refine .bind (.of_ends (fun _ ↦ ends_newStatement opcode operands) .newStatement) fun st ↦ ?_
  exact .of_ends fun _ ↦ ends_addStatement bb st

theorem onRefusal_buildEntry (function : Nat) (name : String) :
    OnRefusal Retains (FunctionBuilder.entry function name) := by
  refine .bind (.demand _ _) fun f ↦ .bind (quiet_resolve function name) fun bb ↦ ?_
  exact .of_ends fun _ ↦ ends_setEntry f.body bb

theorem onRefusal_buildExit (function : Nat) (name : String) :
    OnRefusal Retains (FunctionBuilder.exit function name) := by
  refine .bind (.demand _ _) fun f ↦ .bind (quiet_resolve function name) fun bb ↦ ?_
  exact .of_ends fun _ ↦ ends_setExit f.body bb

/-- The function is there before its name is looked for in the bundle. -/
theorem onRefusal_buildFunction (bundle : Nat) (name : String) :
    OnRefusal Retains (BundleBuilder.function bundle name) := by
  refine .bind (.demand _ _) fun b ↦ .guard ?_
  refine .bind (.of_ends (fun _ ↦ ends_newFunctionAndBody name) .newFunctionAndBody) fun f ↦ ?_
  exact (OnRefusal.of_ends fun _ ↦ ends_addFunction bundle f).answering fun _ ↦ f

/-- A bundle that is there is frozen and handed out. -/
theorem WellFormed.retains_of_freezeBundle (wf : s.WellFormed) (sealed : s.Sealed) {bundle : Nat}
    {e : Error} (refused : s.answer (freezeBundle bundle) = .error e) :
    s.Retains (s.after (freezeBundle bundle)) := by
  match hb : s.bundles.get? bundle with
  | none => exact (after_of_absent hb true).1.symm ▸ .refl s
  | some b =>
    obtain ⟨s', run, -⟩ := exec_freezeBundle wf sealed hb
    rw [answer, run] at refused
    cases refused

@[inherit_doc WellFormed.retains_of_freezeBundle]
theorem WellFormed.retains_of_build (wf : s.WellFormed) (sealed : s.Sealed) {bundle : Nat}
    {check : Bool} {e : Error} (refused : s.answer (BundleBuilder.build bundle check) = .error e) :
    s.Retains (s.after (BundleBuilder.build bundle check)) := by
  match hb : s.bundles.get? bundle with
  | none => exact (after_of_absent hb check).2.symm ▸ .refl s
  | some b =>
    obtain ⟨s', run, -⟩ := exec_build wf sealed hb check
    rw [answer, run] at refused
    cases refused

/-! ## Several elements -/

/-- A series of operations that is refused stops at one of them. -/
theorem exists_refused {f : α → StoreM Unit} {as : List α} {e : Error}
    (refused : s.answer (as.forM f) = .error e) :
    ∃ done a rest, as = done ++ a :: rest ∧ s.answer (done.forM f) = .ok () ∧
      (s.after (done.forM f)).answer (f a) = .error e ∧
      s.after (as.forM f) = (s.after (done.forM f)).after (f a) := by
  induction as generalizing s with
  | nil => nomatch refused
  | cons a as ih =>
    match h : s.answer (f a) with
    | .error e' =>
      have same : s.answer (f a >>= fun _ ↦ as.forM f) = .error e' := answer_bind_of_error h _
      obtain rfl := Except.error.inj (same.symm.trans refused)
      exact ⟨[], a, as, rfl, rfl, h, after_bind_of_error h _⟩
    | .ok () =>
      have later : (s.after (f a)).answer (as.forM f) = .error e :=
        (answer_bind_of_ok h _).symm.trans refused
      obtain ⟨done, a', rest, rfl, passed, here, left⟩ := ih later
      have before : s.after ((a :: done).forM f) = (s.after (f a)).after (done.forM f) :=
        after_bind_of_ok h _
      refine ⟨a :: done, a', rest, rfl, (answer_bind_of_ok h _).trans passed, ?_, ?_⟩
      · rwa [before]
      · rw [before]
        exact (after_bind_of_ok h _).trans left

/-! ### Blocks with statements -/

/-- A function with a body that is not frozen has a block, with this content. -/
inductive HasBlock (s : Store) (function block : Nat) (name : String)
    (content : List (String × List String)) : Prop where
  | intro {f : FunctionEntry} {b : Body} {bb : Block} (hf : s.functions.get? function = some f)
    (hb : s.bodies.get? f.body = some b) (own : b.uid = f.body) (mutable : b.frozen = false)
    (home : s.homes.get? block = some f.body) (listed : bb ∈ b.blocks) (uid : bb.uid = block)
    (named : bb.name = name)
    (holds : bb.statements.map (fun st ↦ (st.opcode, st.operands)) = content)

/-- Makes a statement of an opcode and operands and adds it to a block. -/
def fill (block : Nat) (statement : String × List String) : StoreM Unit := do
  addStatement block (← newStatement statement.1 statement.2)

variable {function block : Nat} {name : String} {content : List (String × List String)}

theorem HasBlock.spend (h : s.HasBlock function block name content) :
    s.spend.HasBlock function block name content := by
  obtain ⟨hf, hb, own, mutable, home, listed, uid, named, holds⟩ := h
  exact ⟨hf, hb, own, mutable, home, listed, uid, named, holds⟩

theorem fill_empty (operands : List String) :
    s.answer (fill block ("", operands)) = .error .emptyOpcode ∧
      s.after (fill block ("", operands)) = s.spend := ⟨rfl, rfl⟩

/-- A statement with an opcode is made and added, whatever its operands are. -/
theorem exec_fill {body : Nat} {b : Body} (home : s.homes.get? block = some body)
    (hb : s.bodies.get? body = some b) (mutable : b.frozen = false) {opcode : String}
    (ne : opcode ≠ "") (operands : List String) :
    let st : Statement := ⟨s.nextUid, opcode, operands⟩
    s.exec (fill block (opcode, operands)) = (.ok (), { s.spend with
      statements := (s.statements.insert s.nextUid ⟨st, none⟩).insert s.nextUid ⟨st, some block⟩
      bodies := s.bodies.insert b.uid (b.pushStatement block st)
      strays := appendStatement s.strays block st }) := by
  intro st
  set made : Store := { s.spend with statements := s.statements.insert s.nextUid ⟨st, none⟩ }
  have make : s.exec (newStatement opcode operands) = (.ok s.nextUid, made) := by
    show s.spend.exec (if opcode = "" then _ else _) = _
    rw [if_neg ne]
    rfl
  have found : made.statements.get? s.nextUid = some ⟨st, none⟩ := by
    rw [Assoc.get?_insert, if_pos rfl]
  rw [fill, exec_bind, make]
  show made.exec (addStatement block s.nextUid) = _
  rw [addStatement, exec_demand_some home, getBody, exec_demand_some hb, getStatement,
    exec_demand_some found, exec_bind, exec_lift, Body.checkMutable_eq_ok_iff.2 mutable]
  rfl

/-- A statement with an opcode is taken by the block. -/
theorem HasBlock.fill (h : s.HasBlock function block name content) {opcode : String}
    (ne : opcode ≠ "") (operands : List String) :
    s.answer (fill block (opcode, operands)) = .ok () ∧
      (s.after (fill block (opcode, operands))).HasBlock function block name
        (content ++ [(opcode, operands)]) := by
  obtain ⟨hf, hb, own, mutable, home, listed, rfl, rfl, rfl⟩ := h
  rename_i f b bb
  set st : Statement := ⟨s.nextUid, opcode, operands⟩
  rw [answer, after, exec_fill home hb mutable ne operands]
  refine ⟨rfl, ?_⟩
  have written : (s.bodies.insert b.uid (b.pushStatement bb.uid st)).get? f.body =
      some (b.pushStatement bb.uid st) := by
    rw [Assoc.get?_insert, if_pos own]
  have received : bb.receive bb.uid st ∈ (b.pushStatement bb.uid st).blocks :=
    List.mem_map_of_mem listed
  refine ⟨hf, written, own, mutable, home, received, Body.uid_receive _ _ _,
    Body.name_receive _ _ _, ?_⟩
  rw [Block.receive, if_pos rfl, List.map_append]
  rfl

/-- The block holds whatever it was given before a refusal. -/
theorem HasBlock.fills (h : s.HasBlock function block name content)
    {statements : List (String × List String)}
    (passed : s.answer (statements.forM (Store.fill block)) = .ok ()) :
    (s.after (statements.forM (Store.fill block))).HasBlock function block name
      (content ++ statements) := by
  induction statements generalizing s content with
  | nil => rwa [List.append_nil]
  | cons statement statements ih =>
    obtain ⟨opcode, operands⟩ := statement
    by_cases empty : opcode = ""
    · subst empty
      nomatch passed
    · obtain ⟨first, h⟩ := h.fill empty operands
      have rest := ih h ((answer_bind_of_ok first _).symm.trans passed)
      rw [List.append_cons]
      exact (after_bind_of_ok first fun _ ↦ statements.forM (Store.fill block)).symm ▸ rest

theorem WellFormed.hasBlock_addBlock (wf : s.WellFormed) {s' : Store} {f : FunctionEntry}
    (hf : s.functions.get? function = some f) (step : Step s (.addBlock f.body name) s') :
    s'.HasBlock function s.nextUid name [] := by
  match step with
  | .addBlock (b := b) hb mutable _ _ =>
    have own := wf.uid_eq f.body b hb
    have written : (s.bodies.insert b.uid (b.pushBlock s.nextUid name)).get? f.body =
        some (b.pushBlock s.nextUid name) := by
      rw [Assoc.get?_insert, if_pos own]
    have home : (s.homes.insert s.nextUid f.body).get? s.nextUid = some f.body := by
      rw [Assoc.get?_insert, if_pos rfl]
    have listed : ⟨s.nextUid, name, []⟩ ∈ (b.pushBlock s.nextUid name).blocks :=
      List.mem_append_right _ (List.mem_singleton.2 rfl)
    exact ⟨hf, written, own, mutable, home, listed, rfl, rfl, rfl⟩

/-- Of statements that are refused, the one at fault has no opcode, and only its number is left. The
block holds those before it. -/
theorem HasBlock.fills_refused (h : s.HasBlock function block name content)
    {statements : List (String × List String)} {e : Error}
    (refused : s.answer (statements.forM (Store.fill block)) = .error e) :
    ∃ done operands rest, statements = done ++ ("", operands) :: rest ∧ e = .emptyOpcode ∧
      s.answer (done.forM (Store.fill block)) = .ok () ∧
      s.after (statements.forM (Store.fill block)) =
        (s.after (done.forM (Store.fill block))).spend ∧
      (s.after (statements.forM (Store.fill block))).HasBlock function block name
        (content ++ done) := by
  obtain ⟨done, ⟨opcode, operands⟩, rest, rfl, passed, here, left⟩ := exists_refused refused
  have holds := h.fills passed
  by_cases empty : opcode = ""
  · subst empty
    rw [(fill_empty operands).1] at here
    rw [(fill_empty operands).2] at left
    exact ⟨done, operands, rest, rfl, (Except.error.inj here).symm, passed, left,
      left ▸ holds.spend⟩
  · rw [(holds.fill empty operands).1] at here
    nomatch here

section Block

variable {f : FunctionEntry} {e : Error} (hf : s.functions.get? function = some f)

include hf

theorem exec_buildBlock (statements : List (String × List String)) :
    s.exec (FunctionBuilder.block function name statements) =
      s.exec (addBlock f.body name >>= fun bb ↦ statements.forM (fill bb)) := exec_demand_some hf _

theorem exec_buildBlock_of_ok (added : s.answer (addBlock f.body name) = .ok block)
    (statements : List (String × List String)) :
    s.exec (FunctionBuilder.block function name statements) =
      (s.after (addBlock f.body name)).exec (statements.forM (fill block)) :=
  (exec_buildBlock hf statements).trans
    (Prod.ext (answer_bind_of_ok added _) (after_bind_of_ok added _))

theorem exec_buildBlock_of_error (denied : s.answer (addBlock f.body name) = .error e)
    (statements : List (String × List String)) :
    s.exec (FunctionBuilder.block function name statements) =
      (.error e, s.after (addBlock f.body name)) :=
  (exec_buildBlock hf statements).trans
    (Prod.ext (answer_bind_of_error denied _) (after_bind_of_error denied _))

end Block

/-- A block is refused as a whole, or for a statement without an opcode, of which only the number is
left. -/
theorem WellFormed.buildBlock_refused (wf : s.WellFormed)
    {statements : List (String × List String)} {e : Error}
    (refused : s.answer (FunctionBuilder.block function name statements) = .error e) :
    (s.answer (FunctionBuilder.block function name []) = .error e ∧
        s.after (FunctionBuilder.block function name statements) = s) ∨
      ∃ done operands rest, statements = done ++ ("", operands) :: rest ∧ e = .emptyOpcode ∧
        s.answer (FunctionBuilder.block function name done) = .ok () ∧
        s.after (FunctionBuilder.block function name statements) =
          (s.after (FunctionBuilder.block function name done)).spend ∧
        (s.after (FunctionBuilder.block function name statements)).HasBlock function s.nextUid name
          done := by
  match hf : s.functions.get? function with
  | none =>
    have run (statements : List (String × List String)) :
        s.exec (FunctionBuilder.block function name statements) =
          (.error (.noSuchNode function), s) := exec_demand_none hf _
    rw [answer, run] at refused
    rw [answer, after, run, run]
    exact .inl ⟨refused, rfl⟩
  | some f =>
    rcases does_addBlock f.body name with ⟨added, step⟩ | ⟨e', denied, same⟩
    · have run := exec_buildBlock_of_ok hf added
      rw [answer, run] at refused
      obtain ⟨done, operands, rest, rfl, rfl, passed, left, holds⟩ :=
        (wf.hasBlock_addBlock hf step).fills_refused refused
      refine .inr ⟨done, operands, rest, rfl, rfl, ?_, ?_, ?_⟩
      · rw [answer, run]
        exact passed
      · rw [after, after, run, run]
        exact left
      · rw [after, run]
        exact holds
    · have run := exec_buildBlock_of_error hf denied
      rw [answer, run] at refused
      rw [answer, after, run, run]
      exact .inl ⟨refused, same⟩

/-! ## What is left -/

/-- A call with several elements that is refused at one of them leaves what the call with the
elements before that one leaves. -/
def StopsAt (s : Store) (call : List α → StoreM Unit) (as : List α) (e : Error) : Prop :=
  ∃ done a rest, as = done ++ a :: rest ∧ s.answer (call done) = .ok () ∧
    (s.after (call done)).answer (call [a]) = .error e ∧ s.after (call as) = s.after (call done)

/-- If no element leaves anything when it is refused, neither does the refused one of several. -/
theorem stopsAt_forM {f : α → StoreM Unit} (single : ∀ a, OnRefusal Eq (f a)) {as : List α}
    {e : Error} (refused : s.answer (as.forM f) = .error e) :
    s.StopsAt (fun as ↦ as.forM f) as e := by
  obtain ⟨done, a, rest, rfl, passed, here, left⟩ := exists_refused refused
  refine ⟨done, a, rest, rfl, passed, answer_bind_of_error here _, left.trans ?_⟩
  exact (single a _ e here).symm

end Store

/-- What an operation that is refused with an error leaves behind. The calls with several elements
leave the effect of their first elements, and all others leave every node as it was. -/
def Operation.Leaves (s : Store) (e : Error) : Operation → Prop
  | .buildBlocks function names => s.StopsAt (FunctionBuilder.blocks function) names e
  | .buildEdges function pairs => s.StopsAt (FunctionBuilder.edges function) pairs e
  | .buildBlock function name statements =>
    (s.answer (FunctionBuilder.block function name []) = .error e ∧
        s.after (FunctionBuilder.block function name statements) = s) ∨
      ∃ done operands rest, statements = done ++ ("", operands) :: rest ∧ e = .emptyOpcode ∧
        s.answer (FunctionBuilder.block function name done) = .ok () ∧
        s.after (FunctionBuilder.block function name statements) =
          (s.after (FunctionBuilder.block function name done)).spend ∧
        (s.after (FunctionBuilder.block function name statements)).HasBlock function s.nextUid name
          done
  | op => s.Spares (s.after op.perform)

theorem Store.WellFormed.leaves {s : Store} (wf : s.WellFormed) (sealed : s.Sealed)
    {op : Operation} {e : Error} (refused : s.answer op.perform = .error e) : op.Leaves s e := by
  have whole {m : StoreM Unit} (h : OnRefusal Retains m) (refused : s.answer m = .error e) :
      s.Spares (s.after m) := (h s e refused).spares wf
  have made {m : StoreM Nat} (h : OnRefusal Retains m) : OnRefusal Retains (discard m) :=
    h.answering fun _ ↦ ()
  cases op with
  | newBundle name => exact whole (made (.of_ends fun _ ↦ ends_newBundle name)) refused
  | newBody => exact whole (made (.of_ends fun _ ↦ ends_newBody)) refused
  | newBlock body name => exact whole (made (.of_ends fun _ ↦ ends_newBlock body name)) refused
  | newFunction name body? => exact whole (made (onRefusal_newFunction name body?)) refused
  | newStatement opcode operands =>
    exact whole (made (.of_ends fun _ ↦ ends_newStatement opcode operands)) refused
  | addFunction bundle function =>
    exact whole (.of_ends fun _ ↦ ends_addFunction bundle function) refused
  | addBlock body name => exact whole (made (.of_ends fun _ ↦ ends_addBlock body name)) refused
  | addStatement block statement =>
    exact whole (.of_ends fun _ ↦ ends_addStatement block statement) refused
  | addEdge body src dst => exact whole (.of_ends fun _ ↦ ends_addEdge body src dst) refused
  | setEntry body block => exact whole (.of_ends fun _ ↦ ends_setEntry body block) refused
  | setExit body block => exact whole (.of_ends fun _ ↦ ends_setExit body block) refused
  | freezeBody body => exact whole (.of_ends fun _ ↦ ends_freezeBody body) refused
  | freezeBundle bundle => exact (wf.retains_of_freezeBundle sealed refused).spares wf
  | validate bundle =>
    exact whole (.of_quiet (.bind (.demand _ _) fun _ ↦ .lift _)) refused
  | buildBlock function name statements => exact wf.buildBlock_refused refused
  | buildBlocks function names =>
    exact stopsAt_forM (onRefusal_buildEmptyBlock function) refused
  | buildStatement function name opcode operands =>
    exact whole (onRefusal_buildStatement function name opcode operands) refused
  | buildEdge function src dst => exact whole (onRefusal_buildEdge function src dst) refused
  | buildEdges function pairs =>
    exact stopsAt_forM (fun (src, dst) ↦ onRefusal_buildEdge function src dst) refused
  | buildEntry function name => exact whole (onRefusal_buildEntry function name) refused
  | buildExit function name => exact whole (onRefusal_buildExit function name) refused
  | startBundle name => exact whole (made (.of_ends fun _ ↦ ends_newBundle name)) refused
  | buildFunction bundle name => exact whole (made (onRefusal_buildFunction bundle name)) refused
  | buildBundle bundle check => exact (wf.retains_of_build sealed refused).spares wf

/-- **A refused operation changes nothing that was there**, whatever was done before; of several
elements those before the refused one stay. -/
theorem leaves_run (nextUid : Nat) (ops : List Operation) {op : Operation} {e : Error}
    (refused : (Store.run { nextUid } ops).answer op.perform = .error e) :
    op.Leaves (Store.run { nextUid } ops) e :=
  ((wellFormed_empty nextUid).run ops).leaves
    ((sealed_empty nextUid).run (wellFormed_empty nextUid) ops) refused

/-- A builder that is asked for a function twice, for an edge to nowhere after one that is there,
and for a block whose second statement has no opcode. -/
theorem leaves_run_builders :
    let s := Store.run {} [.startBundle "unit", .buildFunction 1 "main", .buildBlocks 2 ["a", "b"]]
    (Operation.buildFunction 1 "main").Leaves s (.duplicateFunction "main" "unit") ∧
      (Operation.buildEdges 2 [("a", "b"), ("a", "c"), ("b", "a")]).Leaves s
        (.unknownBlock "c" "main") ∧
      (Operation.buildBlock 2 "d" [("nop", []), ("", ["x"])]).Leaves s .emptyOpcode := by
  refine ⟨leaves_run 1 _ ?_, leaves_run 1 _ ?_, leaves_run 1 _ ?_⟩
  · decide +kernel
  · decide +kernel
  · decide +kernel

end Flowcheck.Ir
