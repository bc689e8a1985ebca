import Flowcheck.Proofs.Ir.Step

/-!
# Runs

A call of a builder is a series of single operations that stops at the first one that is refused,
so it makes a chain of changes whether or not it is refused itself. A sequence of operations makes
the chains of its members one after the other.

Two kinds of changes are made by few operations only. A bundle is closed by the operations that say
so, and a function comes into a bundle by the operations that add one; the chains of all others are
plain.
-/

namespace Flowcheck.Ir

/-! ## Kinds of changes -/

/-- Whether a change closes a bundle. -/
def Change.freezesBundle : Change → Bool
  | .freezeBundle _ => true
  | _ => false

/-- Whether a change puts a function into a bundle. -/
def Change.addsFunction : Change → Bool
  | .addFunction _ _ => true
  | _ => false

/-- A change that does neither. -/
def Change.Plain (c : Change) : Prop := c.freezesBundle = false ∧ c.addsFunction = false

namespace Store

/-- At every store an operation makes a chain of changes with the property `p`, even if it is
refused in the end. -/
def Moves {α : Type} (p : Change → Prop) (m : StoreM α) : Prop :=
  ∀ s : Store, ∃ cs, Trace s cs (s.after m) ∧ ∀ c ∈ cs, p c

variable {α β : Type} {p q : Change → Prop}

theorem moves_of_ends {m : StoreM α} {a : Store → α} {c : Change}
    (h : ∀ s, Ends s m (a s) c) (hc : p c) (spend : p .spend) : Moves p m := by
  intro s
  rcases h s with ⟨_, step⟩ | ⟨_, _, same | spent⟩
  · exact ⟨[c], .cons step .nil, by simpa using hc⟩
  · refine ⟨[], ?_, by simp⟩
    rw [same]
    exact .nil
  · refine ⟨[.spend], ?_, by simpa using spend⟩
    rw [spent]
    exact .cons .spend .nil

theorem plain_of_ends {m : StoreM α} {a : Store → α} {c : Change} (h : ∀ s, Ends s m (a s) c)
    (hc : c.Plain) : Moves Change.Plain m :=
  moves_of_ends h hc ⟨rfl, rfl⟩

namespace Moves

theorem mono {m : StoreM α} (hpq : ∀ c, p c → q c) (hm : Moves p m) : Moves q m := by
  intro s
  obtain ⟨cs, trace, hcs⟩ := hm s
  exact ⟨cs, trace, fun c hc ↦ hpq c (hcs c hc)⟩

/-- An operation that leaves the store alone. -/
theorem still {m : StoreM α} (h : ∀ s : Store, s.after m = s) : Moves p m := by
  intro s
  refine ⟨[], ?_, by simp⟩
  rw [h]
  exact .nil

theorem pure (a : α) : Moves p (pure a) := still fun _ ↦ rfl

theorem demand (uid : Nat) (find : Store → Option α) : Moves p (demand uid find) := by
  refine still fun s ↦ ?_
  rw [after, exec_demand]
  cases find s <;> rfl

theorem lift (x : Except Error α) : Moves p (liftM x) := by
  refine still fun s ↦ ?_
  rw [after, exec_lift]

theorem bind {m : StoreM α} {f : α → StoreM β} (hm : Moves p m) (hf : ∀ a, Moves p (f a)) :
    Moves p (m >>= f) := by
  intro s
  obtain ⟨cs, first, hcs⟩ := hm s
  rw [after, exec_bind]
  rcases h : s.exec m with ⟨_ | a, s'⟩
  · rw [after, h] at first
    exact ⟨cs, first, hcs⟩
  · rw [after, h] at first
    obtain ⟨cs', rest, hcs'⟩ := hf a s'
    refine ⟨cs ++ cs', first.append rest, fun c hc ↦ ?_⟩
    exact (List.mem_append.1 hc).elim (hcs c) (hcs' c)

theorem forM {f : α → StoreM Unit} (hf : ∀ a, Moves p (f a)) (as : List α) :
    Moves p (as.forM f) := by
  induction as with
  | nil => exact pure ()
  | cons a as ih => exact bind (hf a) fun _ ↦ ih

theorem guard {r : Prop} [Decidable r] {e : Error} {f : β → StoreM α} {m : StoreM α}
    (hm : Moves p m) : Moves p (if r then throw e >>= f else m) := by
  by_cases hr : r
  · rw [if_pos hr]
    exact still fun _ ↦ rfl
  · rw [if_neg hr]
    exact hm

theorem discard {m : StoreM α} (hm : Moves p m) : Moves p (discard m) := bind hm fun _ ↦ pure _

end Moves

/-! ## Calls of single operations -/

theorem moves_newBundle (name : String) : Moves Change.Plain (newBundle name) :=
  plain_of_ends (fun _ ↦ ends_newBundle name) ⟨rfl, rfl⟩

theorem moves_newBody : Moves Change.Plain newBody :=
  plain_of_ends (fun _ ↦ ends_newBody) ⟨rfl, rfl⟩

theorem moves_newBlock (body : Nat) (name : String) : Moves Change.Plain (newBlock body name) :=
  plain_of_ends (fun _ ↦ ends_newBlock body name) ⟨rfl, rfl⟩

theorem moves_newFunction (name : String) (body? : Option Nat) :
    Moves Change.Plain (newFunction name body?) := by
  cases body? with
  | some body => exact plain_of_ends (fun _ ↦ ends_newFunction name body) ⟨rfl, rfl⟩
  | none => exact plain_of_ends (fun _ ↦ ends_newFunctionAndBody name) ⟨rfl, rfl⟩

theorem moves_newStatement (opcode : String) (operands : List String) :
    Moves Change.Plain (newStatement opcode operands) :=
  plain_of_ends (fun _ ↦ ends_newStatement opcode operands) ⟨rfl, rfl⟩

theorem moves_addBlock (body : Nat) (name : String) : Moves Change.Plain (addBlock body name) :=
  plain_of_ends (fun _ ↦ ends_addBlock body name) ⟨rfl, rfl⟩

theorem moves_addStatement (block statement : Nat) :
    Moves Change.Plain (addStatement block statement) :=
  plain_of_ends (fun _ ↦ ends_addStatement block statement) ⟨rfl, rfl⟩

theorem moves_addEdge (body src dst : Nat) : Moves Change.Plain (addEdge body src dst) :=
  plain_of_ends (fun _ ↦ ends_addEdge body src dst) ⟨rfl, rfl⟩

theorem moves_setEntry (body block : Nat) : Moves Change.Plain (setEntry body block) :=
  plain_of_ends (fun _ ↦ ends_setEntry body block) ⟨rfl, rfl⟩

theorem moves_setExit (body block : Nat) : Moves Change.Plain (setExit body block) :=
  plain_of_ends (fun _ ↦ ends_setExit body block) ⟨rfl, rfl⟩

theorem moves_freezeBody (body : Nat) : Moves Change.Plain (freezeBody body) :=
  plain_of_ends (fun _ ↦ ends_freezeBody body) ⟨rfl, rfl⟩

/-- The bundle is closed first, and then the bodies of its functions one by one. -/
theorem moves_freezeBundle (bundle : Nat) (closes : p (.freezeBundle bundle))
    (freezes : ∀ body, p (.edit body .freeze)) (spend : p .spend) :
    Moves p (freezeBundle bundle) := by
  intro s
  rw [after, freezeBundle, getBundle, exec_bind, exec_demand]
  cases hb : s.bundles.get? bundle with
  | none => exact ⟨[], .nil, by simp⟩
  | some b =>
    have freezeOne (function : Nat) :
        Moves p (do freezeBody (← getFunction function).body) :=
      .bind (.demand _ _) fun f ↦
        moves_of_ends (fun _ ↦ ends_freezeBody f.body) (freezes f.body) spend
    obtain ⟨cs, rest, hcs⟩ := Moves.forM freezeOne b.functions
      { s with bundles := s.bundles.insert bundle { b with frozen := true } }
    exact ⟨.freezeBundle bundle :: cs, .cons (.freezeBundle hb) rest,
      List.forall_mem_cons.2 ⟨closes, hcs⟩⟩

theorem moves_validate (bundle : Nat) : Moves p (validate bundle) :=
  .bind (.demand _ _) fun _ ↦ .lift _

end Store

/-! ## Calls of builders -/

open Store

variable {p : Change → Prop}

namespace FunctionBuilder

theorem moves_resolve (function : Nat) (name : String) : Moves p (resolve function name) := by
  refine .bind (.demand _ _) fun f ↦ .bind (.demand _ _) fun b ↦ .guard ?_
  exact .bind (.lift _) fun bb ↦ .pure _

theorem moves_block (function : Nat) (name : String) (statements : List (String × List String)) :
    Moves Change.Plain (block function name statements) := by
  refine .bind (.demand _ _) fun f ↦ .bind (moves_addBlock f.body name) fun bb ↦ ?_
  refine .forM (fun (opcode, operands) ↦ ?_) statements
  exact .bind (moves_newStatement opcode operands) fun st ↦ moves_addStatement bb st

theorem moves_blocks (function : Nat) (names : List String) :
    Moves Change.Plain (blocks function names) :=
  .forM (fun name ↦ moves_block function name []) names

theorem moves_statement (function : Nat) (name opcode : String) (operands : List String)
    (made : p (.newStatement opcode operands))
    (added : ∀ block statement, p (.addStatement block statement)) (spend : p .spend) :
    Moves p (statement function name opcode operands) := by
  refine .bind (moves_resolve function name) fun bb ↦ ?_
  refine .bind (moves_of_ends (fun _ ↦ ends_newStatement opcode operands) made spend) fun st ↦ ?_
  exact moves_of_ends (fun _ ↦ ends_addStatement bb st) (added bb st) spend

theorem moves_edge (function : Nat) (src dst : String) :
    Moves Change.Plain (edge function src dst) := by
  refine .bind (.demand _ _) fun f ↦ .bind (moves_resolve function src) fun s ↦ ?_
  exact .bind (moves_resolve function dst) fun d ↦ moves_addEdge f.body s d

theorem moves_edges (function : Nat) (pairs : List (String × String)) :
    Moves Change.Plain (edges function pairs) :=
  .forM (fun (src, dst) ↦ moves_edge function src dst) pairs

theorem moves_entry (function : Nat) (name : String)
    (set : ∀ body block, p (.edit body (.entry block))) (spend : p .spend) :
    Moves p (entry function name) := by
  refine .bind (.demand _ _) fun f ↦ .bind (moves_resolve function name) fun bb ↦ ?_
  exact moves_of_ends (fun _ ↦ ends_setEntry f.body bb) (set f.body bb) spend

theorem moves_exit (function : Nat) (name : String)
    (set : ∀ body block, p (.edit body (.exit block))) (spend : p .spend) :
    Moves p (exit function name) := by
  refine .bind (.demand _ _) fun f ↦ .bind (moves_resolve function name) fun bb ↦ ?_
  exact moves_of_ends (fun _ ↦ ends_setExit f.body bb) (set f.body bb) spend

end FunctionBuilder

namespace BundleBuilder

theorem moves_function (bundle : Nat) (name : String) (made : p (.newFunctionAndBody name))
    (added : ∀ function, p (.addFunction bundle function)) (spend : p .spend) :
    Moves p (function bundle name) := by
  refine .bind (.demand _ _) fun b ↦ .guard ?_
  refine .bind (moves_of_ends (fun _ ↦ ends_newFunctionAndBody name) made spend) fun f ↦ ?_
  refine .bind ?_ fun _ ↦ .pure f
  exact moves_of_ends (fun _ ↦ ends_addFunction bundle f) (added f) spend

theorem moves_build (bundle : Nat) (check : Bool) (closes : p (.freezeBundle bundle))
    (freezes : ∀ body, p (.edit body .freeze)) (handsOut : p (.handOut bundle))
    (spend : p .spend) : Moves p (build bundle check) := by
  have handOut : Moves p (do putBundle bundle { ← getBundle bundle with built := true }) :=
    moves_of_ends (fun _ ↦ Does.ends (.demand fun b hb ↦ .done rfl (.handOut hb))) handsOut spend
  have finish : Moves p (do
      freezeBundle bundle
      putBundle bundle { ← getBundle bundle with built := true }) :=
    .bind (moves_freezeBundle bundle closes freezes spend) fun _ ↦ handOut
  cases check with
  | true => exact .bind (moves_validate bundle) fun _ ↦ finish
  | false => exact finish

end BundleBuilder

/-! ## Sequences -/

namespace Operation

/-- Whether an operation is there to close a bundle. -/
def freezesBundle : Operation → Bool
  | freezeBundle _ | buildBundle _ _ => true
  | _ => false

/-- Whether an operation is there to put a function into a bundle. -/
def addsFunction : Operation → Bool
  | addFunction _ _ | buildFunction _ _ => true
  | _ => false

/-- The changes that an operation may make. -/
def Permits (op : Operation) (c : Change) : Prop :=
  (c.freezesBundle = true → op.freezesBundle = true) ∧
    (c.addsFunction = true → op.addsFunction = true)

theorem permits_plain (op : Operation) (c : Change) (plain : c.Plain) : op.Permits c :=
  ⟨by simp [plain.1], by simp [plain.2]⟩

theorem permits_of_addsFunction (op : Operation) (h : op.addsFunction = true) (c : Change)
    (hc : c.freezesBundle = false) : op.Permits c :=
  ⟨by simp [hc], fun _ ↦ h⟩

theorem permits_of_freezesBundle (op : Operation) (h : op.freezesBundle = true) (c : Change)
    (hc : c.addsFunction = false) : op.Permits c :=
  ⟨fun _ ↦ h, by simp [hc]⟩

theorem moves_perform (op : Operation) : Moves op.Permits op.perform := by
  have plain {m : StoreM Unit} (hm : Moves Change.Plain m) : Moves op.Permits m :=
    hm.mono op.permits_plain
  cases op with
  | newBundle name => exact plain (.discard (moves_newBundle name))
  | newBody => exact plain (.discard moves_newBody)
  | newBlock body name => exact plain (.discard (moves_newBlock body name))
  | newFunction name body? => exact plain (.discard (moves_newFunction name body?))
  | newStatement opcode operands => exact plain (.discard (moves_newStatement opcode operands))
  | addFunction bundle function =>
    have adds := permits_of_addsFunction (.addFunction bundle function) rfl
    exact moves_of_ends (fun _ ↦ ends_addFunction bundle function) (adds _ rfl) (adds _ rfl)
  | addBlock body name => exact plain (.discard (moves_addBlock body name))
  | addStatement block statement => exact plain (moves_addStatement block statement)
  | addEdge body src dst => exact plain (moves_addEdge body src dst)
  | setEntry body block => exact plain (moves_setEntry body block)
  | setExit body block => exact plain (moves_setExit body block)
  | freezeBody body => exact plain (moves_freezeBody body)
  | freezeBundle bundle =>
    have closes := permits_of_freezesBundle (.freezeBundle bundle) rfl
    exact moves_freezeBundle bundle (closes _ rfl) (fun _ ↦ closes _ rfl) (closes _ rfl)
  | validate bundle => exact moves_validate bundle
  | buildBlock function name statements =>
    exact plain (FunctionBuilder.moves_block function name statements)
  | buildBlocks function names => exact plain (FunctionBuilder.moves_blocks function names)
  | buildStatement function name opcode operands =>
    exact plain (FunctionBuilder.moves_statement function name opcode operands ⟨rfl, rfl⟩
      (fun _ _ ↦ ⟨rfl, rfl⟩) ⟨rfl, rfl⟩)
  | buildEdge function src dst => exact plain (FunctionBuilder.moves_edge function src dst)
  | buildEdges function pairs => exact plain (FunctionBuilder.moves_edges function pairs)
  | buildEntry function name =>
    exact plain (FunctionBuilder.moves_entry function name (fun _ _ ↦ ⟨rfl, rfl⟩) ⟨rfl, rfl⟩)
  | buildExit function name =>
    exact plain (FunctionBuilder.moves_exit function name (fun _ _ ↦ ⟨rfl, rfl⟩) ⟨rfl, rfl⟩)
  | startBundle name => exact plain (.discard (moves_newBundle name))
  | buildFunction bundle name =>
    have adds := permits_of_addsFunction (.buildFunction bundle name) rfl
    exact .discard (BundleBuilder.moves_function bundle name (adds _ rfl) (fun _ ↦ adds _ rfl)
      (adds _ rfl))
  | buildBundle bundle check =>
    have closes := permits_of_freezesBundle (.buildBundle bundle check) rfl
    exact BundleBuilder.moves_build bundle check (closes _ rfl) (fun _ ↦ closes _ rfl)
      (closes _ rfl) (closes _ rfl)

end Operation

theorem Store.run_append (s : Store) (ops ops' : List Operation) :
    s.run (ops ++ ops') = (s.run ops).run ops' := by
  induction ops generalizing s with
  | nil => rfl
  | cons op ops ih => exact ih (s.after op.perform)

/-- **A run is a chain of changes**, whichever of its operations are refused. -/
theorem trace_run (ops : List Operation) (s : Store) : ∃ cs, Trace s cs (s.run ops) := by
  induction ops generalizing s with
  | nil => exact ⟨[], .nil⟩
  | cons op ops ih =>
    obtain ⟨cs, first, _⟩ := op.moves_perform s
    obtain ⟨cs', rest⟩ := ih (s.after op.perform)
    exact ⟨cs ++ cs', first.append rest⟩

end Flowcheck.Ir
