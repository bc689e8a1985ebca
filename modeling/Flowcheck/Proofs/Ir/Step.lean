import Flowcheck.Ir.Operation
import Flowcheck.Proofs.Ir.Body

/-!
# Operations as chains of changes

The operations on a store share a handful of changes: a builder call is a series of them, and a
refused call is none, or a number spent. A change is a relation between the store before and the
store after, with the conditions under which the operations let it happen. The lemmas `ends_…` say
of each single operation that it makes its change or is refused, and `trace_run` says that every
sequence of operations is a chain of changes. Whatever each change keeps is therefore kept by every
sequence.
-/

namespace Flowcheck.Ir

/-! ## Changes -/

/-- What an operation can do to a store. -/
inductive Change where
  | spend
  | newBundle (name : String)
  | newBody
  | newBlock (body : Nat) (name : String)
  | newFunction (name : String) (body : Nat)
  | newFunctionAndBody (name : String)
  | newStatement (opcode : String) (operands : List String)
  | addFunction (bundle function : Nat)
  | addBlock (body : Nat) (name : String)
  | addStatement (block statement : Nat)
  | edit (body : Nat) (e : Body.Edit)
  | freezeBundle (bundle : Nat)
  | handOut (bundle : Nat)
  deriving DecidableEq

/-- The store with its next number used up. -/
def Store.spend (s : Store) : Store := { s with nextUid := s.nextUid + 1 }

@[simp] theorem Store.nextUid_spend (s : Store) : s.spend.nextUid = s.nextUid + 1 := rfl

@[simp] theorem Store.bundles_spend (s : Store) : s.spend.bundles = s.bundles := rfl

@[simp] theorem Store.functions_spend (s : Store) : s.spend.functions = s.functions := rfl

@[simp] theorem Store.bodies_spend (s : Store) : s.spend.bodies = s.bodies := rfl

@[simp] theorem Store.homes_spend (s : Store) : s.spend.homes = s.homes := rfl

@[simp] theorem Store.strays_spend (s : Store) : s.spend.strays = s.strays := rfl

@[simp] theorem Store.statements_spend (s : Store) : s.spend.statements = s.statements := rfl

/-- The name of the function with a number. -/
def Store.functionName? (s : Store) (uid : Nat) : Option String :=
  (s.functions.get? uid).map FunctionEntry.name

/-- The names of the functions with the given numbers. -/
def Store.functionNames (s : Store) (uids : List Nat) : List String :=
  uids.filterMap s.functionName?

/-- Before and after a change, with what the operations check before they make it. -/
inductive Step (s : Store) : Change → Store → Prop where
  | spend : Step s .spend s.spend
  | newBundle (name : String) :
      Step s (.newBundle name) { s.spend with bundles := s.bundles.insert s.nextUid { name } }
  | newBody :
      Step s .newBody { s.spend with bodies := s.bodies.insert s.nextUid { uid := s.nextUid } }
  | newBlock {body : Nat} {b : Body} (name : String) (hb : s.bodies.get? body = some b) :
      Step s (.newBlock body name)
        { s.spend with
          homes := s.homes.insert s.nextUid body
          strays := s.strays ++ [⟨s.nextUid, name, []⟩] }
  | newFunction {name : String} {body : Nat} {b : Body} (hn : name ≠ "")
      (hb : s.bodies.get? body = some b) (free : b.owner? = none) :
      Step s (.newFunction name body)
        { s.spend with
          bodies := s.bodies.insert b.uid { b with owner? := some ⟨s.nextUid, name⟩ }
          functions := s.functions.insert s.nextUid { name, body } }
  | newFunctionAndBody {name : String} (hn : name ≠ "") :
      Step s (.newFunctionAndBody name)
        { s.spend.spend with
          bodies := s.bodies.insert (s.nextUid + 1)
            { uid := s.nextUid + 1, owner? := some ⟨s.nextUid, name⟩ }
          functions := s.functions.insert s.nextUid { name, body := s.nextUid + 1 } }
  | newStatement {opcode : String} (operands : List String) (ho : opcode ≠ "") :
      Step s (.newStatement opcode operands)
        { s.spend with
          statements := s.statements.insert s.nextUid
            { statement := ⟨s.nextUid, opcode, operands⟩ } }
  | addFunction {bundle function : Nat} {b : BundleEntry} {f : FunctionEntry}
      (hb : s.bundles.get? bundle = some b) (hf : s.functions.get? function = some f)
      (mutable : b.frozen = false) (new : f.name ∉ s.functionNames b.functions) :
      Step s (.addFunction bundle function)
        { s with
          functions := s.functions.insert function { f with bundle? := some bundle }
          bundles := s.bundles.insert bundle { b with functions := b.functions ++ [function] } }
  | addBlock {body : Nat} {b : Body} {name : String} (hb : s.bodies.get? body = some b)
      (mutable : b.frozen = false) (hn : name ≠ "") (new : b.hasBlock name = false) :
      Step s (.addBlock body name)
        { s.spend with
          bodies := s.bodies.insert b.uid (b.pushBlock s.nextUid name)
          homes := s.homes.insert s.nextUid body }
  | addStatement {block statement body : Nat} {b : Body} {e : StatementEntry}
      (home : s.homes.get? block = some body) (hb : s.bodies.get? body = some b)
      (he : s.statements.get? statement = some e) (mutable : b.frozen = false)
      (free : e.block? = none) :
      Step s (.addStatement block statement)
        { s with
          statements := s.statements.insert statement { e with block? := some block }
          bodies := s.bodies.insert b.uid (b.pushStatement block e.statement)
          strays := appendStatement s.strays block e.statement }
  | edit {body : Nat} {b b' : Body} {e : Body.Edit} (hb : s.bodies.get? body = some b)
      (he : b.Edits e b') :
      Step s (.edit body e) { s with bodies := s.bodies.insert b'.uid b' }
  | freezeBundle {bundle : Nat} {b : BundleEntry} (hb : s.bundles.get? bundle = some b) :
      Step s (.freezeBundle bundle)
        { s with bundles := s.bundles.insert bundle { b with frozen := true } }
  | handOut {bundle : Nat} {b : BundleEntry} (hb : s.bundles.get? bundle = some b) :
      Step s (.handOut bundle)
        { s with bundles := s.bundles.insert bundle { b with built := true } }

/-- A chain of changes. -/
inductive Trace : Store → List Change → Store → Prop where
  | nil {s : Store} : Trace s [] s
  | cons {s s' s'' : Store} {c : Change} {cs : List Change} (first : Step s c s')
      (rest : Trace s' cs s'') : Trace s (c :: cs) s''

theorem Trace.append {s s' s'' : Store} {cs cs' : List Change} (h : Trace s cs s')
    (h' : Trace s' cs' s'') : Trace s (cs ++ cs') s'' := by
  induction h with
  | nil => exact h'
  | cons first _ ih => exact .cons first (ih h')

/-- What every change with a property keeps is kept by a chain of such changes. -/
theorem Trace.keeps_of {P : Store → Prop} {p : Change → Prop}
    (keep : ∀ {s s' : Store} {c}, p c → P s → Step s c s' → P s') {s s' : Store}
    {cs : List Change} (h : Trace s cs s') (hcs : ∀ c ∈ cs, p c) (start : P s) : P s' := by
  induction h with
  | nil => exact start
  | cons first _ ih =>
    obtain ⟨hc, hcs⟩ := List.forall_mem_cons.1 hcs
    exact ih hcs (keep hc start first)

/-- What every change keeps is kept by a chain of changes. -/
theorem Trace.keeps {P : Store → Prop} (keep : ∀ {s s' : Store} {c}, P s → Step s c s' → P s')
    {s s' : Store} {cs : List Change} (h : Trace s cs s') (start : P s) : P s' :=
  h.keeps_of (p := fun _ ↦ True) (fun _ hs step ↦ keep hs step) (fun _ _ ↦ trivial) start

namespace Store

variable {α β : Type} {s s₀ s' : Store} {c : Change} {a : α}

/-! ## Performing in sequence -/

theorem exec_bind (s : Store) (m : StoreM α) (f : α → StoreM β) :
    s.exec (m >>= f) = match s.exec m with
      | (.ok a, s') => s'.exec (f a)
      | (.error e, s') => (.error e, s') := by
  rcases h : s.exec m with ⟨e | a, s'⟩
  · exact run_bind_of_error h f
  · exact run_bind_of_ok h f

theorem exec_demand (s : Store) (uid : Nat) (find : Store → Option α) :
    s.exec (demand uid find) = match find s with
      | some a => (.ok a, s)
      | none => (.error (.noSuchNode uid), s) := by
  show s.exec (match find s with | some a => pure a | none => throw (.noSuchNode uid)) = _
  cases find s <;> rfl

theorem exec_demand_some {uid : Nat} {find : Store → Option β} {x : β} (hx : find s = some x)
    (f : β → StoreM α) : s.exec (demand uid find >>= f) = s.exec (f x) := by
  rw [exec_bind, exec_demand, hx]

theorem exec_demand_none {uid : Nat} {find : Store → Option β} (hx : find s = none)
    (f : β → StoreM α) : s.exec (demand uid find >>= f) = (.error (.noSuchNode uid), s) := by
  rw [exec_bind, exec_demand, hx]

theorem exec_lift (s : Store) (x : Except Error α) : s.exec (liftM x) = (x, s) :=
  run_liftM x s

theorem after_bind_of_ok {m : StoreM α} {a : α} (h : s.answer m = .ok a) (f : α → StoreM β) :
    s.after (m >>= f) = (s.after m).after (f a) := by
  have run : s.exec m = (.ok a, s.after m) := Prod.ext h rfl
  rw [after, exec_bind, run]
  rfl

theorem after_bind_of_error {m : StoreM α} {e : Error} (h : s.answer m = .error e)
    (f : α → StoreM β) : s.after (m >>= f) = s.after m := by
  have run : s.exec m = (.error e, s.after m) := Prod.ext h rfl
  rw [after, exec_bind, run]

theorem after_discard (m : StoreM α) : s.after (discard m) = s.after m := by
  cases h : s.answer m with
  | ok a => exact after_bind_of_ok h _
  | error e => exact after_bind_of_error h _

/-- What a look-up leads to, whether or not it succeeds. -/
theorem after_demand {P : Store → Prop} {uid : Nat} {find : Store → Option β} {f : β → StoreM α}
    (start : P s) (h : ∀ x, find s = some x → P (s.after (f x))) :
    P (s.after (demand uid find >>= f)) := by
  rw [after]
  cases hx : find s with
  | none => rwa [exec_demand_none hx]
  | some x =>
    rw [exec_demand_some hx]
    exact h x hx

theorem after_guard {P : Store → Prop} {p : Prop} [Decidable p] {e : Error} {f : β → StoreM α}
    {m : StoreM α} (start : P s) (h : ¬p → P (s.after m)) :
    P (s.after (if p then throw e >>= f else m)) := by
  by_cases hp : p
  · rw [if_pos hp]
    exact start
  · rw [if_neg hp]
    exact h hp

/-- From the store `s` on, an operation makes a change of the store `s₀` and answers `a`, or it is
refused and leaves `s`. -/
def Does (s₀ s : Store) (m : StoreM α) (a : α) (c : Change) : Prop :=
  (s.answer m = .ok a ∧ Step s₀ c (s.after m)) ∨ ∃ e, s.answer m = .error e ∧ s.after m = s

namespace Does

theorem done {m : StoreM α} (h : s.exec m = (.ok a, s')) (hs : Step s₀ c s') :
    Does s₀ s m a c := by
  refine .inl ⟨?_, ?_⟩
  · rw [answer, h]
  · rwa [after, h]

theorem refused {m : StoreM α} {e : Error} (h : s.exec m = (.error e, s)) : Does s₀ s m a c := by
  refine .inr ⟨e, ?_, ?_⟩
  · rw [answer, h]
  · rw [after, h]

theorem congr {m m' : StoreM α} (same : s.exec m = s.exec m') (h : Does s₀ s m' a c) :
    Does s₀ s m a c := by
  unfold Does answer after
  rw [same]
  exact h

/-- A look-up is refused or hands on what it finds. -/
theorem demand {uid : Nat} {find : Store → Option β} {f : β → StoreM α}
    (h : ∀ x, find s = some x → Does s₀ s (f x) a c) :
    Does s₀ s (demand uid find >>= f) a c := by
  cases hx : find s with
  | none => exact refused (exec_demand_none hx f)
  | some x => exact congr (exec_demand_some hx f) (h x hx)

/-- A check is refused or hands on its answer. -/
theorem lift {x : Except Error β} {f : β → StoreM α}
    (h : ∀ y, x = .ok y → Does s₀ s (f y) a c) : Does s₀ s (liftM x >>= f) a c := by
  cases hx : x with
  | error e =>
    refine refused (e := e) ?_
    rw [exec_bind, exec_lift]
  | ok y =>
    refine congr ?_ (h y hx)
    rw [exec_bind, exec_lift]

/-- A condition for refusal does not hold where the operation goes on. -/
theorem guard {p : Prop} [Decidable p] {e : Error} {f : β → StoreM α} {m : StoreM α}
    (h : ¬p → Does s₀ s m a c) : Does s₀ s (if p then throw e >>= f else m) a c := by
  by_cases hp : p
  · rw [if_pos hp]
    exact refused rfl
  · rw [if_neg hp]
    exact h hp

end Does

/-- **How an operation ends**: with one change, or refused with at most a number spent. -/
def Ends (s : Store) (m : StoreM α) (a : α) (c : Change) : Prop :=
  (s.answer m = .ok a ∧ Step s c (s.after m)) ∨
    ∃ e, s.answer m = .error e ∧ (s.after m = s ∨ s.after m = s.spend)

theorem Does.ends {m : StoreM α} (h : Does s s m a c) : Ends s m a c := by
  rcases h with done | ⟨e, refused, same⟩
  · exact .inl done
  · exact .inr ⟨e, refused, .inl same⟩

/-- A node takes its number before anything is checked. -/
theorem ends_fresh {f : Nat → StoreM α} (h : Does s s.spend (f s.nextUid) a c) :
    Ends s (fresh >>= f) a c := by
  have same : s.exec (fresh >>= f) = s.spend.exec (f s.nextUid) := rfl
  unfold Ends answer after
  rw [same]
  rcases h with done | ⟨e, refused, same⟩
  · exact .inl done
  · exact .inr ⟨e, refused, .inr same⟩

/-! ## Single operations -/

theorem uid_of_block? {uid : Nat} {bb : Block} (h : s.block? uid = some bb) : bb.uid = uid := by
  obtain ⟨body, _, h⟩ := Option.bind_eq_some_iff.1 h
  obtain ⟨b, _, h⟩ := Option.bind_eq_some_iff.1 h
  rw [Option.orElse_eq_orElse, ← Option.or_eq_orElse, Option.or_eq_some_iff] at h
  rcases h with h | ⟨_, h⟩
  · simpa using List.find?_some h
  · simpa using List.find?_some h

theorem ends_newBundle (name : String) : Ends s (newBundle name) s.nextUid (.newBundle name) :=
  .inl ⟨rfl, .newBundle name⟩

theorem ends_newBody : Ends s newBody s.nextUid .newBody := .inl ⟨rfl, .newBody⟩

theorem ends_newBlock (body : Nat) (name : String) :
    Ends s (newBlock body name) s.nextUid (.newBlock body name) := by
  refine Does.ends (.demand fun b hb ↦ ?_)
  exact .done rfl (.newBlock name hb)

theorem exec_claim {uid body : Nat} {name : String} {b : Body} (hb : s.bodies.get? body = some b)
    (free : b.owner? = none) :
    s.exec (claim uid name body) = (.ok uid,
      { s with
        bodies := s.bodies.insert b.uid { b with owner? := some ⟨uid, name⟩ }
        functions := s.functions.insert uid { name, body } }) := by
  rw [claim, getBody, exec_bind, exec_demand, hb]
  simp only [free]
  rfl

theorem ends_newFunction (name : String) (body : Nat) :
    Ends s (newFunction name (some body)) s.nextUid (.newFunction name body) := by
  refine ends_fresh (.guard fun hn ↦ .demand fun b hb ↦ ?_)
  cases free : b.owner? with
  | some owner => exact .refused rfl
  | none => exact .done rfl (.newFunction (b := b) hn hb free)

/-- A function with a name is made together with its body. -/
theorem exec_newFunction {name : String} (ne : name ≠ "") :
    s.exec (newFunction name none) = (.ok s.nextUid, { s.spend.spend with
      bodies := s.bodies.insert (s.nextUid + 1)
        { uid := s.nextUid + 1, owner? := some ⟨s.nextUid, name⟩ }
      functions := s.functions.insert s.nextUid { name, body := s.nextUid + 1 } }) := by
  have found : (s.bodies.insert (s.nextUid + 1) { uid := s.nextUid + 1 }).get? (s.nextUid + 1) =
      some { uid := s.nextUid + 1 } := by
    rw [Assoc.get?_insert, if_pos rfl]
  show s.spend.exec (if name = "" then _ else _) = _
  rw [if_neg ne]
  show Store.exec
    { s.spend.spend with
      bodies := s.bodies.insert (s.nextUid + 1) { uid := s.nextUid + 1 } }
    (claim s.nextUid name (s.nextUid + 1)) = _
  rw [exec_claim found rfl]
  dsimp only
  rw [Assoc.insert_insert]
  rfl

theorem ends_newFunctionAndBody (name : String) :
    Ends s (newFunction name none) s.nextUid (.newFunctionAndBody name) := by
  by_cases hn : name = ""
  · subst hn
    exact .inr ⟨.emptyFunctionName, rfl, .inr rfl⟩
  · rw [Ends, answer, after, exec_newFunction hn]
    exact .inl ⟨rfl, .newFunctionAndBody hn⟩

theorem ends_newStatement (opcode : String) (operands : List String) :
    Ends s (newStatement opcode operands) s.nextUid (.newStatement opcode operands) := by
  refine ends_fresh (.guard fun ho ↦ ?_)
  exact .done rfl (.newStatement operands ho)

theorem ends_addFunction (bundle function : Nat) :
    Ends s (addFunction bundle function) () (.addFunction bundle function) := by
  refine Does.ends (.demand fun b hb ↦ .demand fun f hf ↦ .guard fun mutable ↦ ?_)
  refine .guard fun new ↦ .done rfl ?_
  exact .addFunction hb hf (by simpa using mutable) new

theorem does_addBlock (body : Nat) (name : String) :
    Does s s (addBlock body name) s.nextUid (.addBlock body name) := by
  refine .demand fun b hb ↦ .lift fun _ mutable ↦ .lift fun _ new ↦ .done rfl ?_
  obtain ⟨hn, new⟩ := Body.checkNewName_eq_ok_iff.1 new
  exact .addBlock hb (Body.checkMutable_eq_ok_iff.1 mutable) hn new

theorem ends_addBlock (body : Nat) (name : String) :
    Ends s (addBlock body name) s.nextUid (.addBlock body name) :=
  (does_addBlock body name).ends

theorem ends_addStatement (block statement : Nat) :
    Ends s (addStatement block statement) () (.addStatement block statement) := by
  refine Does.ends (.demand fun body home ↦ .demand fun b hb ↦ .demand fun e he ↦ ?_)
  refine .lift fun _ mutable ↦ ?_
  cases free : e.block? with
  | some owner => exact .demand fun _ _ ↦ .refused rfl
  | none => exact .done rfl (.addStatement home hb he (Body.checkMutable_eq_ok_iff.1 mutable) free)

theorem does_addEdge (body src dst : Nat) :
    Does s s (addEdge body src dst) () (.edit body (.edge src dst)) := by
  refine .demand fun b hb ↦ .demand fun sb hs ↦ .demand fun db hd ↦ ?_
  refine .lift fun b' hb' ↦ .done rfl ?_
  have he := Body.edits_of_addEdge hb'
  rw [uid_of_block? hs, uid_of_block? hd] at he
  exact .edit hb he

theorem ends_addEdge (body src dst : Nat) :
    Ends s (addEdge body src dst) () (.edit body (.edge src dst)) :=
  (does_addEdge body src dst).ends

theorem ends_setEntry (body block : Nat) :
    Ends s (setEntry body block) () (.edit body (.entry block)) := by
  refine Does.ends (.demand fun b hb ↦ .demand fun bb hbb ↦ .lift fun b' hb' ↦ .done rfl ?_)
  have he := Body.edits_of_setEntry hb'
  rw [uid_of_block? hbb] at he
  exact .edit hb he

theorem ends_setExit (body block : Nat) :
    Ends s (setExit body block) () (.edit body (.exit block)) := by
  refine Does.ends (.demand fun b hb ↦ .demand fun bb hbb ↦ .lift fun b' hb' ↦ .done rfl ?_)
  have he := Body.edits_of_setExit hb'
  rw [uid_of_block? hbb] at he
  exact .edit hb he

theorem ends_freezeBody (body : Nat) : Ends s (freezeBody body) () (.edit body .freeze) := by
  refine Does.ends (.demand fun b hb ↦ ?_)
  exact .done rfl (.edit hb .freeze)

end Store

end Flowcheck.Ir
